import MotionTutor.Catalog.Chapter

/-!
# Text objects

Words, quotes, brackets, tags and paragraphs as objects to select.
-/

namespace MotionTutor.Lessons

def textObjectsLessons : List Exercise := [
  { id := "textobjects_001"
    code := ["const userName = 'developer';"]
    cursor := ⟨0, 6⟩
    mission := "Select the word 'userName' using inner word"
    solutions := ["iw"]
    optimal := "iw"
    hint := "iw selects the inner word under the cursor (without surrounding spaces)"
    explanation := "The 'iw' text object selects the word under the cursor. It's 'inner' because it doesn't include surrounding whitespace. This is incredibly useful for quickly selecting variable names, function names, or any word in your code." },
  { id := "textobjects_002"
    code := ["function calculateTotal(items, taxRate) \x7b"]
    cursor := ⟨0, 12⟩
    mission := "Select 'calculateTotal' using inner word"
    solutions := ["iw"]
    optimal := "iw"
    hint := "Position doesn't matter - iw selects the entire word under cursor"
    explanation := "Notice how 'iw' selects the entire word 'calculateTotal' even though the cursor is in the middle. Vim considers camelCase as a single word by default." },
  { id := "textobjects_003"
    code := ["const result = value + offset;"]
    cursor := ⟨0, 17⟩
    mission := "Select 'value' AND trailing space using 'a word'"
    solutions := ["aw"]
    optimal := "aw"
    hint := "aw means 'a word' - includes the word plus one surrounding space"
    explanation := "The 'aw' text object selects 'a word' including surrounding whitespace. This is perfect when you want to delete a word completely, leaving no extra spaces behind. Use 'daw' to delete a word cleanly."
    points := 15 },
  { id := "textobjects_004"
    level := 2
    code := ["const message = \"Hello, World!\";"]
    cursor := ⟨0, 20⟩
    mission := "Select the text inside double quotes (not the quotes)"
    solutions := ["i\""]
    optimal := "i\""
    hint := "i\" selects everything INSIDE the double quotes"
    explanation := "The 'i\"' text object selects text inside double quotes, excluding the quotes themselves. This is perfect for changing string contents while keeping the quotes: ci\" lets you change the string content."
    points := 15 },
  { id := "textobjects_005"
    level := 2
    code := ["console.log(\"Processing data...\");"]
    cursor := ⟨0, 18⟩
    mission := "Select the entire quoted string INCLUDING the quotes"
    solutions := ["a\""]
    optimal := "a\""
    hint := "a\" selects the quotes AND everything inside them"
    explanation := "The 'a\"' text object includes the quote characters themselves. Use this when you want to delete or replace an entire quoted string, including its delimiters. da\" removes the whole string with quotes."
    points := 15 },
  { id := "textobjects_006"
    level := 2
    code := ["const apiKey = 'sk-abc123xyz';"]
    cursor := ⟨0, 20⟩
    mission := "Select the API key inside single quotes"
    solutions := ["i'"]
    optimal := "i'"
    hint := "i' works just like i\" but for single quotes"
    explanation := "The i' text object works identically to i\" but for single-quoted strings. In JavaScript/TypeScript, both quote styles are common, so knowing both is essential."
    points := 15 },
  { id := "textobjects_007"
    level := 2
    code := ["import \x7b useState \x7d from 'react';"]
    cursor := ⟨0, 28⟩
    mission := "Select 'react' INCLUDING the surrounding quotes"
    solutions := ["a'"]
    optimal := "a'"
    hint := "a' includes the quote characters in the selection"
    explanation := "Using a' selects the entire quoted import path including quotes. This is useful when you need to replace an entire import path with a different one."
    points := 15 },
  { id := "textobjects_008"
    level := 3
    code := ["const sum = add(firstNum, secondNum);"]
    cursor := ⟨0, 20⟩
    mission := "Select the function arguments inside parentheses"
    solutions := ["i(", "i)", "ib"]
    optimal := "i("
    hint := "i( or i) or ib all select inside parentheses"
    explanation := "The i( text object (also i) or ib for 'inner block') selects everything inside parentheses. This is incredibly powerful for changing function arguments. ci( lets you rewrite all arguments at once."
    points := 20 },
  { id := "textobjects_009"
    level := 3
    code := ["const result = compute(x * y + z);"]
    cursor := ⟨0, 25⟩
    mission := "Select the parentheses AND everything inside"
    solutions := ["a(", "a)", "ab"]
    optimal := "a("
    hint := "a( includes the parentheses themselves"
    explanation := "The a( text object includes the parentheses. Use da( to delete a function call's argument list entirely, or ca( to change the entire parenthesized expression."
    points := 20 },
  { id := "textobjects_010"
    level := 3
    code := ["const config = \x7b debug: true, timeout: 5000 \x7d;"]
    cursor := ⟨0, 25⟩
    mission := "Select everything inside the curly braces"
    solutions := ["i\x7b", "i\x7d", "iB"]
    optimal := "i\x7b"
    hint := "i\x7b or i\x7d or iB selects inside curly braces"
    explanation := "The i\x7b text object (also i\x7d or iB for 'inner Block') selects content inside braces. Essential for working with objects, function bodies, and code blocks. ci\x7b rewrites an entire object's contents."
    points := 20 },
  { id := "textobjects_011"
    level := 3
    code := ["const user = \x7b name: 'John', age: 30 \x7d;"]
    cursor := ⟨0, 20⟩
    mission := "Select the entire object INCLUDING the braces"
    solutions := ["a\x7b", "a\x7d", "aB"]
    optimal := "a\x7b"
    hint := "a\x7b includes the curly braces in the selection"
    explanation := "The a\x7b text object includes the braces. Useful when replacing an entire object literal or when you need to wrap an object in something else."
    points := 20 },
  { id := "textobjects_012"
    level := 4
    code := ["const numbers = [1, 2, 3, 4, 5];"]
    cursor := ⟨0, 20⟩
    mission := "Select the array elements inside the brackets"
    solutions := ["i[", "i]"]
    optimal := "i["
    hint := "i[ or i] selects inside square brackets"
    explanation := "The i[ text object selects content inside square brackets. Perfect for array manipulation - ci[ lets you replace all array elements, di[ empties the array while keeping the brackets."
    points := 20 },
  { id := "textobjects_013"
    level := 4
    code := ["const item = inventory[selectedIndex];"]
    cursor := ⟨0, 27⟩
    mission := "Select the bracket accessor INCLUDING brackets"
    solutions := ["a[", "a]"]
    optimal := "a["
    hint := "a[ includes the square brackets"
    explanation := "The a[ text object includes the brackets. Use da[ to remove an array index accessor entirely, converting inventory[selectedIndex] to just inventory."
    points := 20 },
  { id := "textobjects_014"
    level := 5
    code := ["<button>Click me</button>"]
    cursor := ⟨0, 12⟩
    mission := "Select 'Click me' inside the HTML tags"
    solutions := ["it"]
    optimal := "it"
    hint := "it selects inside XML/HTML tags"
    explanation := "The 'it' text object selects content inside matching HTML/XML tags. This is a game-changer for web development - cit lets you change tag content while preserving the tags themselves."
    points := 25 },
  { id := "textobjects_015"
    level := 5
    code := ["<div><span>Hello</span></div>"]
    cursor := ⟨0, 12⟩
    mission := "Select the entire <span> element including tags"
    solutions := ["at"]
    optimal := "at"
    hint := "at selects the entire tag including opening and closing tags"
    explanation := "The 'at' text object selects an entire HTML/XML element including both opening and closing tags. Use dat to delete a complete element, or cat to replace it with something else."
    points := 30 }]

def textObjectsBoss : Boss where
  id := "textobjects_boss"
  name := "The Text Surgeon"
  lives := 3
  steps := [
    ⟨6,
      { id := "textobjects_boss_1"
        level := 5
        code := ["const userAuthentication = validateCredentials(input);"]
        cursor := ⟨0, 10⟩
        mission := "Select 'userAuthentication' using inner word"
        solutions := ["iw"]
        optimal := "iw"
        points := 50 }⟩,
    ⟨6,
      { id := "textobjects_boss_2"
        level := 5
        code := ["const endpoint = \"/api/v2/users/profile\";"]
        cursor := ⟨0, 25⟩
        mission := "Select the URL path inside the quotes"
        solutions := ["i\""]
        optimal := "i\""
        points := 50 }⟩,
    ⟨6,
      { id := "textobjects_boss_3"
        level := 5
        code := ["const filtered = items.filter(item => item.active && item.visible);"]
        cursor := ⟨0, 45⟩
        mission := "Select everything inside the filter parentheses"
        solutions := ["i(", "i)", "ib"]
        optimal := "i("
        points := 50 }⟩,
    ⟨6,
      { id := "textobjects_boss_4"
        level := 5
        code := ["const settings = \x7b theme: 'dark', fontSize: 14, autoSave: true \x7d;"]
        cursor := ⟨0, 30⟩
        mission := "Select all properties inside the braces"
        solutions := ["i\x7b", "i\x7d", "iB"]
        optimal := "i\x7b"
        points := 50 }⟩,
    ⟨6,
      { id := "textobjects_boss_5"
        level := 5
        code := ["<section><article>Important content here</article></section>"]
        cursor := ⟨0, 25⟩
        mission := "Select the entire <article> element including its tags"
        solutions := ["at"]
        optimal := "at"
        points := 50 }⟩]
  bonusTime := 30

def textObjects : ChapterContent := ⟨textObjectsLessons, some textObjectsBoss⟩

end MotionTutor.Lessons

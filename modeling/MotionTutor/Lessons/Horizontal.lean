import MotionTutor.Catalog.Chapter

/-!
# Motions within a line

Words, searches for a character and the ends of a line.
-/

namespace MotionTutor.Lessons

def horizontalLessons : List Exercise := [
  { id := "horizontal_001"
    code := ["const userName = 'gentleman';"]
    cursor := ⟨0, 0⟩
    mission := "Move to the start of 'userName' using w (word)"
    solutions := ["w"]
    optimal := "w"
    hint := "w moves to the start of the next word"
    explanation := "w (word) moves the cursor to the start of the next word. It's the most basic and useful horizontal motion in Vim." },
  { id := "horizontal_002"
    code := ["user.data.name = 'value';"]
    cursor := ⟨0, 0⟩
    mission := "Move to '=' using W (WORD, skips punctuation)"
    solutions := ["W"]
    optimal := "W"
    hint := "W moves to the start of the next space-separated block"
    explanation := "W (WORD) treats everything separated by spaces as a single word. 'user.data.name' is one WORD, but multiple words with w." },
  { id := "horizontal_003"
    code := ["const config = \x7b name: 'app' \x7d;"]
    cursor := ⟨0, 0⟩
    mission := "Move to the end of 'const' using e (end)"
    solutions := ["e"]
    optimal := "e"
    hint := "e moves to the end of the current or next word"
    explanation := "e (end) moves the cursor to the last character of the current or next word. Very useful for positioning before adding text." },
  { id := "horizontal_004"
    code := ["const userName = 'gentleman';"]
    cursor := ⟨0, 15⟩
    mission := "Go back to the start of 'userName' using b (back)"
    solutions := ["b"]
    optimal := "b"
    hint := "b moves to the start of the previous word"
    explanation := "b (back) is the opposite of w. It moves to the start of the previous word. Essential for navigating backwards efficiently." },
  { id := "horizontal_005"
    level := 2
    code := ["    const config = getConfig();"]
    cursor := ⟨0, 15⟩
    mission := "Move to the end of the line using $ (end of line)"
    solutions := ["$"]
    optimal := "$"
    hint := "$ moves to the last character of the line"
    explanation := "$ moves to the end of the line. It's one of the most used motions along with 0 (start of line) and ^ (first non-blank)." },
  { id := "horizontal_006"
    level := 2
    code := ["    const config = getConfig();"]
    cursor := ⟨0, 25⟩
    mission := "Move to the absolute start of the line using 0 (zero)"
    solutions := ["0"]
    optimal := "0"
    hint := "0 moves to column 0, the absolute start"
    explanation := "0 (zero) moves to the absolute start of the line, including spaces. Different from ^ which goes to the first non-blank character." },
  { id := "horizontal_007"
    level := 2
    code := ["    const config = getConfig();"]
    cursor := ⟨0, 25⟩
    mission := "Move to the first non-blank character using ^ (caret)"
    solutions := ["^"]
    optimal := "^"
    hint := "^ moves to the first character that isn't a space"
    explanation := "^ moves to the first non-blank character of the line. Very useful in indented code where 0 would take you to the spaces." },
  { id := "horizontal_008"
    level := 3
    code := ["const userName = 'gentleman';"]
    cursor := ⟨0, 0⟩
    mission := "Move to the '=' using f (find)"
    solutions := ["f="]
    optimal := "f="
    hint := "f followed by a character takes you to that character"
    explanation := "f\x7bchar\x7d (find) moves the cursor to the next occurrence of the specified character (inclusive). It's one of the most powerful commands."
    points := 15 },
  { id := "horizontal_009"
    level := 3
    code := ["const userName = 'gentleman';"]
    cursor := ⟨0, 0⟩
    mission := "Move UNTIL BEFORE the '=' using t (till)"
    solutions := ["t="]
    optimal := "t="
    hint := "t is like f but stops ONE character before"
    explanation := "t\x7bchar\x7d (till) is like f but exclusive - it stops just before the target character. Useful for operations like ct= (change till =)."
    points := 15 },
  { id := "horizontal_010"
    level := 3
    code := ["const userName = 'gentleman';"]
    cursor := ⟨0, 27⟩
    mission := "Move backwards to the first quote using F'"
    solutions := ["F'"]
    optimal := "F'"
    hint := "F is like f but searches backwards (left)"
    explanation := "F\x7bchar\x7d searches for the character backwards (left). T\x7bchar\x7d does the same but exclusive. They're the mirror of f and t."
    points := 15 },
  { id := "horizontal_011"
    level := 4
    code := ["name.first.middle.last"]
    cursor := ⟨0, 0⟩
    mission := "Reach the third dot using f. then ;; (repeat twice)"
    solutions := ["f.;;", "3f."]
    optimal := "3f."
    hint := "; repeats the last f/F/t/T in the same direction"
    explanation := "; repeats the last f/F/t/T movement. You can also use \x7bn\x7df. to go to the n-th directly. Both are valid."
    points := 20 },
  { id := "horizontal_012"
    level := 4
    code := ["name.first.middle.last"]
    cursor := ⟨0, 17⟩
    mission := "From the third dot, go back to the second using F. (find backward)"
    solutions := ["F."]
    optimal := "F."
    hint := "F searches backward for a character, , repeats the last f/F in opposite direction"
    explanation := "F\x7bchar\x7d searches backward. You can also use , to repeat f/F/t/T in the opposite direction if you already did a search."
    points := 20 },
  { id := "horizontal_013"
    level := 4
    code := ["const userName = 'gentleman';"]
    cursor := ⟨0, 15⟩
    mission := "Move to the end of the previous word (the 'e' in 'userName') using ge"
    solutions := ["ge"]
    optimal := "ge"
    hint := "ge is like e but backwards"
    explanation := "ge moves to the end of the previous word. It's the opposite of e, just like b is the opposite of w. gE does the same with WORDS."
    points := 20 },
  { id := "horizontal_014"
    level := 5
    code := ["one two three four five six"]
    cursor := ⟨0, 0⟩
    mission := "Reach 'four' using 3w (three words forward)"
    solutions := ["3w", "ff"]
    optimal := "3w"
    hint := "You can put a number before any motion to repeat it"
    explanation := "\x7bn\x7dw jumps n words forward. 3w = www. This works with any motion: 3e, 3b, 3f\x7bchar\x7d, etc."
    points := 25 },
  { id := "horizontal_015"
    level := 5
    code := ["const getUserData = (userId) => fetchUser(userId);"]
    cursor := ⟨0, 0⟩
    mission := "Reach the opening parenthesis of fetchUser efficiently"
    solutions := ["2f(", "f(;"]
    optimal := "2f("
    hint := "There are two parentheses - how do you get to the second directly?"
    explanation := "2f( jumps to the second '('. You can also use f( then ; to repeat. Mastering \x7bn\x7df\x7bchar\x7d is the key to being fast in Vim."
    points := 30 },
  { id := "horizontal_016"
    level := 5
    code := ["user.profile.settings = config.defaults;"]
    cursor := ⟨0, 0⟩
    mission := "Move to the end of 'user.profile.settings' using E (end of WORD)"
    solutions := ["E"]
    optimal := "E"
    hint := "E moves to the end of the current WORD (space-separated)"
    explanation := "E (end of WORD) moves to the end of the current space-separated block. While 'e' stops at 'user', 'E' goes all the way to 'settings'. Use E when dealing with dotted paths or hyphenated words."
    points := 15 },
  { id := "horizontal_017"
    level := 5
    code := ["const result = user.profile.settings;"]
    cursor := ⟨0, 36⟩
    mission := "Move back to 'user' using B (back WORD)"
    solutions := ["B"]
    optimal := "B"
    hint := "B moves to the start of the previous WORD (space-separated)"
    explanation := "B (back WORD) is the opposite of W. It jumps back over entire space-separated blocks. From 'settings', B takes you to 'user' in one move, while 'b' would stop at each dot-separated part."
    points := 15 },
  { id := "horizontal_018"
    level := 6
    code := ["const value = 'hello world';"]
    cursor := ⟨0, 26⟩
    mission := "Move backwards to just AFTER the opening quote using T'"
    solutions := ["T'"]
    optimal := "T'"
    hint := "T is like F but stops one character AFTER the target"
    explanation := "T\x7bchar\x7d (till backwards) searches backward but lands one character AFTER the target. F' would land ON the quote, T' lands just after it. Perfect for operations like dT' (delete backwards till quote)."
    points := 20 },
  { id := "horizontal_019"
    level := 6
    code := ["one.two.three.four.five"]
    cursor := ⟨0, 0⟩
    mission := "Use f. to jump to a dot, then ; to go forward, then , to go back"
    solutions := ["f.;,"]
    optimal := "f.;,"
    hint := ", repeats the last f/F/t/T but in the OPPOSITE direction"
    explanation := ", (comma) is the reverse of ; (semicolon). If you used f. to search forward, , goes backward to the previous dot. It's like having an undo for your character search - incredibly useful for overshooting!"
    points := 20 }]

def horizontalBoss : Boss where
  id := "horizontal_boss"
  name := "The Line Walker"
  lives := 3
  steps := [
    ⟨5,
      { id := "horizontal_boss_1"
        level := 5
        code := ["const getUserProfile = (userId) => fetchUserData(userId).then(processProfile);"]
        cursor := ⟨0, 0⟩
        mission := "Move to the 'e' in 'getUser'"
        solutions := ["fe", "wl"]
        optimal := "fe"
        points := 50 }⟩,
    ⟨5,
      { id := "horizontal_boss_2"
        level := 5
        code := ["const getUserProfile = (userId) => fetchUserData(userId).then(processProfile);"]
        cursor := ⟨0, 33⟩
        mission := "Move to the start of 'fetchUserData'"
        solutions := ["ff", "ll"]
        optimal := "ff"
        points := 50 }⟩,
    ⟨5,
      { id := "horizontal_boss_3"
        level := 5
        code := ["const getUserProfile = (userId) => fetchUserData(userId).then(processProfile);"]
        cursor := ⟨0, 36⟩
        mission := "Move to 'processProfile'"
        solutions := ["fp", "2f(l"]
        optimal := "fp"
        points := 50 }⟩,
    ⟨5,
      { id := "horizontal_boss_4"
        level := 5
        code := ["const getUserProfile = (userId) => fetchUserData(userId).then(processProfile);"]
        cursor := ⟨0, 62⟩
        mission := "Move to the end of the line"
        solutions := ["$"]
        optimal := "$"
        points := 50 }⟩,
    ⟨5,
      { id := "horizontal_boss_5"
        level := 5
        code := ["const getUserProfile = (userId) => fetchUserData(userId).then(processProfile);"]
        cursor := ⟨0, 77⟩
        mission := "Go back to the start of the line"
        solutions := ["0", "^"]
        optimal := "0"
        points := 50 }⟩]
  bonusTime := 30

def horizontal : ChapterContent := ⟨horizontalLessons, some horizontalBoss⟩

end MotionTutor.Lessons

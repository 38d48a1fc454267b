import MotionTutor.Catalog.Chapter

/-!
# Substituting text

Replacing characters, words and lines. Answers are judged by the list alone.
-/

namespace MotionTutor.Lessons

def substitutionLessons : List Exercise := [
  { id := "substitution_001"
    code := ["function getTaxRate() \x7b return 0.o8; \x7d"]
    cursor := ⟨0, 33⟩
    mission := "Fix the typo: replace 'o' with '0' using r"
    solutions := ["r0"]
    optimal := "r0"
    hint := "r replaces single character without entering insert mode"
    explanation := "The 'r' command replaces the character under the cursor with the next character you type. It's perfect for fixing single-character typos quickly without entering insert mode." },
  { id := "substitution_002"
    code := ["const API_ENDPOINT = 'htps://api.example.com';"]
    cursor := ⟨0, 23⟩
    mission := "Fix 'htps' to 'https' by replacing 'p' with 't' using r, then move right and replace 's' with 'p'"
    solutions := ["rtlrp", "rt$F:hrp"]
    optimal := "rtlrp"
    hint := "Use r to replace, then l to move right, then r again"
    explanation := "Multiple r commands can fix adjacent typos efficiently. After each r replacement, you stay in normal mode and can immediately move to the next character."
    timeoutSecs := 45
    points := 15 },
  { id := "substitution_003"
    level := 2
    code := ["const VERSION = '1.0.0';"]
    cursor := ⟨0, 18⟩
    mission := "Enter Replace mode with R (in real Vim: R then type new version)"
    solutions := ["R"]
    optimal := "R"
    hint := "R enters replace mode - each character you type overwrites the existing one"
    explanation := "The 'R' command enters Replace mode, where each character you type replaces the character under the cursor, then advances. It's like the Insert key on a keyboard - perfect for overwriting text of the same length. In real Vim you'd type: R2.1.5<Esc>"
    points := 15 },
  { id := "substitution_004"
    level := 2
    code := ["const DATE = '2023-01-15';"]
    cursor := ⟨0, 14⟩
    mission := "Enter Replace mode with R to overwrite the date (in real Vim: type the new date)"
    solutions := ["R"]
    optimal := "R"
    hint := "Position on the '2' and use R to start overwriting"
    explanation := "Replace mode is ideal when you need to change text but keep the same length. The original text is overwritten character by character as you type. In real Vim: R2024-12-25<Esc>"
    points := 15 },
  { id := "substitution_005"
    level := 3
    code := ["const pi = 3.14;"]
    cursor := ⟨0, 15⟩
    mission := "Use s to substitute the ';' (in real Vim: s then type 159;)"
    solutions := ["s"]
    optimal := "s"
    hint := "s deletes the character under cursor and enters insert mode"
    explanation := "The 's' command (substitute) deletes the character under the cursor and enters insert mode. It's equivalent to 'cl' - delete character and insert. Use it when you need to replace a character with multiple characters. In real Vim: s159;<Esc>"
    points := 15 },
  { id := "substitution_006"
    level := 3
    code := ["let x = getValue();"]
    cursor := ⟨0, 4⟩
    mission := "Use s to substitute variable 'x' (in real Vim: s then type 'result')"
    solutions := ["s"]
    optimal := "s"
    hint := "s removes one character and enters insert mode for replacement"
    explanation := "Using 's' on a single character variable lets you replace it with a longer, more descriptive name. This is more efficient than 'xi' when the character needs to be deleted. In real Vim: sresult<Esc>"
    points := 15 },
  { id := "substitution_007"
    level := 4
    code := ["// TODO: implement later"]
    cursor := ⟨0, 0⟩
    mission := "Use S to clear the line for replacement (in real Vim: type new content)"
    solutions := ["S"]
    optimal := "S"
    hint := "S deletes the entire line content and enters insert mode"
    explanation := "The 'S' command (substitute line) deletes the entire line's content (preserving indentation) and enters insert mode. It's equivalent to 'cc' - change the whole line. In real Vim: S// DONE: feature complete<Esc>"
    points := 20 },
  { id := "substitution_008"
    level := 4
    code := ["  const oldValue = 42;  // deprecated"]
    cursor := ⟨0, 10⟩
    mission := "Use S to clear line content (preserves indent) for new code"
    solutions := ["S"]
    optimal := "S"
    hint := "S clears line content but keeps the indentation"
    explanation := "When S is used, it preserves the leading whitespace/indentation of the line. This is helpful when rewriting code while maintaining proper formatting. In real Vim you'd type the new code after S."
    points := 20 },
  { id := "substitution_009"
    level := 5
    code := ["const maxValue = 100;"]
    cursor := ⟨0, 6⟩
    mission := "Toggle 'm' to 'M' using ~ to start making it MAX_VALUE style"
    solutions := ["~"]
    optimal := "~"
    hint := "~ toggles the case of the character under cursor and moves right"
    explanation := "The '~' command toggles the case of the character under the cursor (lowercase becomes uppercase and vice versa), then moves the cursor one position to the right." },
  { id := "substitution_010"
    level := 5
    code := ["const api = 'REST';"]
    cursor := ⟨0, 13⟩
    mission := "Toggle 'REST' to 'rest' by pressing ~ four times or using 4~"
    solutions := ["~~~~", "4~"]
    optimal := "4~"
    hint := "You can use a count before ~ to toggle multiple characters"
    explanation := "Like most Vim commands, ~ accepts a count. '4~' toggles the case of 4 characters. This is faster than pressing ~ repeatedly for multiple characters."
    timeoutSecs := 45
    points := 15 },
  { id := "substitution_011"
    level := 6
    code := ["const ERROR_MESSAGE = 'Not Found';"]
    cursor := ⟨0, 6⟩
    mission := "Convert 'ERROR_MESSAGE' to 'error_message' using gu and a motion"
    solutions := ["guiW", "gue", "gu2e", "guE"]
    optimal := "guiW"
    hint := "gu followed by a motion lowercases the text covered by that motion"
    explanation := "The 'gu' operator converts text to lowercase. Combined with motions like 'w' (word), 'iW' (inner WORD), or 'e' (end of word), it can lowercase any amount of text efficiently."
    timeoutSecs := 45
    points := 20 },
  { id := "substitution_012"
    level := 6
    code := ["const STATUS = 'ACTIVE';"]
    cursor := ⟨0, 0⟩
    mission := "Convert the entire line to lowercase using guu"
    solutions := ["guu", "gugu"]
    optimal := "guu"
    hint := "guu lowercases the entire current line"
    explanation := "Doubling the motion operator (guu) applies it to the entire line - a common Vim pattern. You can also use 'gugu' which does the same thing."
    timeoutSecs := 45
    points := 20 },
  { id := "substitution_013"
    level := 7
    code := ["const api_key = 'secret123';"]
    cursor := ⟨0, 6⟩
    mission := "Convert 'api_key' to 'API_KEY' using gU and a motion"
    solutions := ["gUiW", "gUe", "gU2e", "gUE"]
    optimal := "gUiW"
    hint := "gU followed by a motion uppercases the text covered by that motion"
    explanation := "The 'gU' operator converts text to uppercase. It's the counterpart to 'gu'. Combined with motions, it's perfect for converting variable names to CONSTANT_CASE."
    timeoutSecs := 45
    points := 20 },
  { id := "substitution_014"
    level := 7
    code := ["function getUser() \x7b return user; \x7d"]
    cursor := ⟨0, 9⟩
    mission := "Convert 'getUser' to 'GETUSER' using gUiw"
    solutions := ["gUiw", "gUe", "gUw"]
    optimal := "gUiw"
    hint := "gU with word motions uppercases entire words"
    explanation := "Using gU with word motions (w, e, iw) is efficient for uppercasing identifiers. 'gUiw' uppercases the inner word regardless of cursor position within the word."
    timeoutSecs := 45
    points := 20 },
  { id := "substitution_015"
    level := 8
    code := ["const message = 'Hello'", "  + ' World';"]
    cursor := ⟨0, 0⟩
    mission := "Join the two lines into one using J"
    solutions := ["J"]
    optimal := "J"
    hint := "J joins the current line with the next line, adding a space between them"
    explanation := "The 'J' command joins the current line with the line below it, replacing the line break with a space. It also removes leading whitespace from the joined line. Use 'gJ' to join without adding a space."
    points := 15 }]

def substitutionBoss : Boss where
  id := "substitution_boss"
  name := "The Transformer"
  lives := 3
  steps := [
    ⟨8,
      { id := "substitution_boss_1"
        level := 8
        code := ["// todo: fix this code", "const apiEndpoint = 'htps://api.example.com';"]
        cursor := ⟨0, 3⟩
        mission := "Change 'todo' to 'TODO' using gU"
        solutions := ["gUw", "gUe", "gUiw"]
        optimal := "gUiw"
        points := 50 }⟩,
    ⟨10,
      { id := "substitution_boss_2"
        level := 8
        code := ["// TODO: fix this code", "const apiEndpoint = 'htps://api.example.com';"]
        cursor := ⟨1, 22⟩
        mission := "Fix 'htps' to 'https' using r twice (replace 'p' with 't', then 's' with 'p')"
        solutions := ["rtlrp", "rt$F:hrp"]
        optimal := "rtlrp"
        points := 50 }⟩,
    ⟨8,
      { id := "substitution_boss_3"
        level := 8
        code := ["const maxRetries = 3;", "const timeout = 5000;"]
        cursor := ⟨0, 6⟩
        mission := "Change 'maxRetries' to 'MAX_RETRIES' using gU"
        solutions := ["gUiW", "gUe", "gU2e"]
        optimal := "gUiW"
        points := 50 }⟩,
    ⟨6,
      { id := "substitution_boss_4"
        level := 8
        code := ["const errorCode", "  = 500;"]
        cursor := ⟨0, 0⟩
        mission := "Join the two lines into one using J"
        solutions := ["J"]
        optimal := "J"
        points := 50 }⟩,
    ⟨10,
      { id := "substitution_boss_5"
        level := 8
        code := ["const VERSION = '1.0.0';"]
        cursor := ⟨0, 18⟩
        mission := "Enter Replace mode with R to change version (in real Vim: type 2.5.0)"
        solutions := ["R"]
        optimal := "R"
        points := 50 }⟩]
  bonusTime := 45

def substitution : ChapterContent := ⟨substitutionLessons, some substitutionBoss⟩

end MotionTutor.Lessons

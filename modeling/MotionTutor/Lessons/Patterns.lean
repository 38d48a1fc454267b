import MotionTutor.Catalog.Chapter

/-!
# Searching by pattern

Searches and substitutions by pattern. Answers are judged by the list alone.
-/

namespace MotionTutor.Lessons

def patternsLessons : List Exercise := [
  { id := "regex_001"
    code := [
      "const user = getUser();",
      "if (!user) \x7b",
      "  throw new Error(\"no user\");",
      "\x7d"]
    cursor := ⟨0, 0⟩
    mission := "Search forward for 'Error'"
    solutions := ["/Error"]
    optimal := "/Error"
    hint := "/ starts a forward search"
    explanation := "/pattern jumps to the next match after the cursor." },
  { id := "regex_002"
    code := ["import os", "config = load()", "print(config)"]
    cursor := ⟨2, 0⟩
    mission := "Search backward for 'import'"
    solutions := ["?import"]
    optimal := "?import"
    hint := "? searches backwards"
    explanation := "?pattern jumps to the previous match before the cursor." },
  { id := "regex_003"
    code := ["error: disk full", "warning: low memory", "error: timeout"]
    cursor := ⟨0, 0⟩
    mission := "After searching /error, jump to the next match"
    solutions := ["n"]
    optimal := "n"
    hint := "n repeats the last search"
    explanation := "n repeats the last search in the same direction." },
  { id := "regex_004"
    level := 2
    code := ["error: disk full", "warning: low memory", "error: timeout"]
    cursor := ⟨2, 0⟩
    mission := "Jump to the previous match of the last search"
    solutions := ["N"]
    optimal := "N"
    hint := "N goes the other way"
    explanation := "N repeats the last search in the opposite direction."
    points := 15 },
  { id := "regex_005"
    level := 2
    code := ["let count = 0;", "count += 1;", "return count;"]
    cursor := ⟨0, 4⟩
    mission := "Search forward for the word under the cursor"
    solutions := ["*"]
    optimal := "*"
    hint := "* searches the whole word under the cursor"
    explanation := "* searches forward for the word under the cursor, matching whole words only."
    points := 15 },
  { id := "regex_006"
    level := 2
    code := ["let count = 0;", "count += 1;", "return count;"]
    cursor := ⟨2, 7⟩
    mission := "Search backward for the word under the cursor"
    solutions := ["#"]
    optimal := "#"
    hint := "# is * in reverse"
    explanation := "# searches backward for the word under the cursor."
    points := 15 },
  { id := "regex_007"
    level := 3
    code := ["getName()", "setName(value)", "resetName()"]
    cursor := ⟨0, 0⟩
    mission := "Search for getName or setName using very magic mode"
    solutions := ["/\\v(get|set)Name", "/\\(get\\|set\\)Name"]
    optimal := "/\\v(get|set)Name"
    hint := "\\v makes ( | ) special without backslashes"
    explanation := "Very magic mode (\\v) lets you write regex groups and alternation without escaping."
    points := 20 },
  { id := "regex_008"
    level := 3
    code := ["// TODO: handle errors", "fn main() \x7b\x7d"]
    cursor := ⟨0, 0⟩
    mission := "Find TODO in every Rust file of the project"
    solutions := [":vimgrep /TODO/ **/*.rs", ":vim /TODO/ **/*.rs"]
    optimal := ":vimgrep /TODO/ **/*.rs"
    hint := ":vimgrep fills the quickfix list"
    explanation := ":vimgrep searches files and collects matches in the quickfix list."
    points := 20 },
  { id := "regex_009"
    level := 3
    code := ["src/main.rs|3| TODO", "src/lib.rs|9| TODO"]
    cursor := ⟨0, 0⟩
    mission := "Jump to the next quickfix entry"
    solutions := [":cnext", ":cn"]
    optimal := ":cnext"
    hint := ":cnext moves through the quickfix list"
    explanation := ":cnext (or :cn) jumps to the next quickfix entry. :copen shows the list."
    points := 20 }]

def patternsBoss : Boss where
  id := "regex_boss"
  name := "The Pattern Master"
  lives := 3
  steps := [
    ⟨6,
      { id := "regex_boss_1"
        level := 5
        code := ["fn load() \x7b\x7d", "fn save() \x7b\x7d", "fn load_all() \x7b\x7d"]
        cursor := ⟨0, 0⟩
        mission := "Search forward for 'save'"
        solutions := ["/save"]
        optimal := "/save"
        points := 50 }⟩,
    ⟨5,
      { id := "regex_boss_2"
        level := 5
        code := ["fn load() \x7b\x7d", "fn save() \x7b\x7d", "fn load_all() \x7b\x7d"]
        cursor := ⟨1, 0⟩
        mission := "Repeat the search backward"
        solutions := ["N"]
        optimal := "N"
        points := 50 }⟩,
    ⟨5,
      { id := "regex_boss_3"
        level := 5
        code := ["total = total + step"]
        cursor := ⟨0, 0⟩
        mission := "Search for the next whole-word match of the word under the cursor"
        solutions := ["*"]
        optimal := "*"
        points := 50 }⟩,
    ⟨8,
      { id := "regex_boss_4"
        level := 5
        code := ["width: 10px;", "height: 20px;"]
        cursor := ⟨0, 0⟩
        mission := "Search for width or height in very magic mode"
        solutions := ["/\\v(width|height)", "/\\(width\\|height\\)"]
        optimal := "/\\v(width|height)"
        points := 50 }⟩,
    ⟨8,
      { id := "regex_boss_5"
        level := 5
        code := ["// FIXME", "fn a() \x7b\x7d"]
        cursor := ⟨0, 0⟩
        mission := "Collect every FIXME in the project into the quickfix list"
        solutions := [":vimgrep /FIXME/ **/*", ":vim /FIXME/ **/*"]
        optimal := ":vimgrep /FIXME/ **/*"
        points := 50 }⟩]
  bonusTime := 60

def patterns : ChapterContent := ⟨patternsLessons, some patternsBoss⟩

end MotionTutor.Lessons

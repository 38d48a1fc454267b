import MotionTutor.Catalog.Chapter

/-!
# Recording and playing

Registers that hold keys. Answers are judged by the list alone.
-/

namespace MotionTutor.Lessons

def macrosLessons : List Exercise := [
  { id := "macros_001"
    code := ["item1: value1", "item2: value2", "item3: value3", "item4: value4"]
    cursor := ⟨0, 0⟩
    mission := "Start recording a macro to register 'a' using qa"
    solutions := ["qa"]
    optimal := "qa"
    hint := "q followed by a register letter (a-z) starts recording"
    explanation := "qa starts recording all your keystrokes to register 'a'. Macros are Vim's way of recording and playing back keystrokes - like a tape recorder for your editing!" },
  { id := "macros_002"
    code := ["const a = 1;", "const b = 2;", "const c = 3;", "const d = 4;"]
    cursor := ⟨0, 0⟩
    mission := "Start recording a macro to register 'a' (this will record edits)"
    solutions := ["qa"]
    optimal := "qa"
    hint := "Press q then a to begin recording to register a"
    explanation := "Once you press qa, every keystroke you make will be recorded until you press q again. This is the foundation of automation in Vim." },
  { id := "macros_003"
    code := ["[RECORDING @a]", "const item = getValue();"]
    cursor := ⟨0, 0⟩
    mission := "Stop the macro recording with q"
    solutions := ["q"]
    optimal := "q"
    hint := "Just press q to stop recording"
    explanation := "Pressing q while recording stops the recording. Your macro is now saved in register 'a' and ready to be played back." },
  { id := "macros_004"
    code := ["[RECORDING @b]", "line one", "line two"]
    cursor := ⟨0, 0⟩
    mission := "You're recording to register 'b'. Stop the recording."
    solutions := ["q"]
    optimal := "q"
    hint := "q stops any recording regardless of the register"
    explanation := "Remember: qa starts recording to 'a', qb to 'b', etc. A single q stops any recording. The register letter is only needed to start." },
  { id := "macros_005"
    level := 2
    code := ["TODO item 1", "TODO item 2", "TODO item 3"]
    cursor := ⟨0, 0⟩
    mission := "Play the macro stored in register 'a' using @a"
    solutions := ["@a"]
    optimal := "@a"
    hint := "@ followed by register letter plays that macro"
    explanation := "@ executes the macro stored in a register. If you recorded 'dwj' in register 'a', @a will delete a word and move down - exactly what you recorded!"
    points := 15 },
  { id := "macros_006"
    level := 2
    code := ["old_name = value1", "old_name = value2", "old_name = value3"]
    cursor := ⟨0, 0⟩
    mission := "Execute the macro in register 'a' to transform this line"
    solutions := ["@a"]
    optimal := "@a"
    hint := "@ + register letter executes the recorded keystrokes"
    explanation := "Macros are perfect for repetitive edits. Record once, play many times. The key insight: make your macro work on ONE line, then repeat it."
    points := 15 },
  { id := "macros_007"
    level := 2
    code := ["item1: done", "item2: pending", "item3: pending", "item4: pending"]
    cursor := ⟨1, 0⟩
    mission := "Repeat the last macro you just played using @@"
    solutions := ["@@"]
    optimal := "@@"
    hint := "@@ repeats the most recently executed macro"
    explanation := "@@ is a shortcut to repeat the last macro you executed. Much faster than typing @a again! Works with any register that was last used."
    points := 15 },
  { id := "macros_008"
    level := 2
    code := ["row1 = transform(data1);", "row2 = transform(data2);", "row3 = transform(data3);"]
    cursor := ⟨1, 0⟩
    mission := "Apply the same macro again with @@"
    solutions := ["@@"]
    optimal := "@@"
    hint := "Double @ replays whatever macro you last executed"
    explanation := "The @@ command is essential for rapid macro application. Pattern: @a to play once, then @@ @@ @@ for subsequent lines."
    points := 15 },
  { id := "macros_009"
    level := 3
    code := [
      "line 1 - needs fix",
      "line 2 - needs fix",
      "line 3 - needs fix",
      "line 4 - needs fix",
      "line 5 - needs fix"]
    cursor := ⟨0, 0⟩
    mission := "Play macro 'a' five times in one command using 5@a"
    solutions := ["5@a"]
    optimal := "5@a"
    hint := "Prefix @ with a count to repeat multiple times"
    explanation := "Like most Vim commands, @ accepts a count. 5@a runs the macro 5 times. Perfect for applying the same edit to many lines at once!"
    points := 20 },
  { id := "macros_010"
    level := 3
    code := [
      "data[0] = input[0];",
      "data[1] = input[1];",
      "data[2] = input[2];",
      "data[3] = input[3];",
      "data[4] = input[4];",
      "data[5] = input[5];",
      "data[6] = input[6];",
      "data[7] = input[7];",
      "data[8] = input[8];",
      "data[9] = input[9];"]
    cursor := ⟨0, 0⟩
    mission := "Apply macro 'a' to all 10 lines with 10@a"
    solutions := ["10@a"]
    optimal := "10@a"
    hint := "Use count before @ to run multiple times"
    explanation := "Pro tip: if you have 100 lines, just use 100@a. If the macro fails partway (e.g., end of file), it stops safely. Overestimating is fine!"
    points := 20 },
  { id := "macros_011"
    level := 4
    code := ["const importantValue = 'remember_this';", "", "// Need this value below"]
    cursor := ⟨0, 6⟩
    mission := "Yank the word 'importantValue' to register 'a' using \"ayiw"
    solutions := ["\"ayiw"]
    optimal := "\"ayiw"
    hint := "\"a before yank stores it in register a instead of default"
    explanation := "Registers aren't just for macros! \"a before any yank/delete stores that text in register 'a'. You have 26 named registers (a-z) to use."
    points := 25 },
  { id := "macros_012"
    level := 4
    code := ["// Register 'a' contains: myFunction", "const result = ();"]
    cursor := ⟨1, 15⟩
    mission := "Paste the contents of register 'a' using \"ap"
    solutions := ["\"ap"]
    optimal := "\"ap"
    hint := "\"a before paste retrieves from register a"
    explanation := "\"ap pastes from register 'a'. Unlike the default register which gets overwritten often, named registers (a-z) persist until you overwrite them."
    points := 25 },
  { id := "macros_013"
    level := 5
    code := ["const API_KEY = 'abc123xyz789';", "", "// Copy the key to share externally"]
    cursor := ⟨0, 16⟩
    mission := "Yank the string content to system clipboard using \"+yi'"
    solutions := ["\"+yi'", "\"+yi\""]
    optimal := "\"+yi'"
    hint := "\"+  is the system clipboard register"
    explanation := "\"+ is the system clipboard! \"+y yanks to your OS clipboard so you can paste in other apps. \"+p pastes from clipboard into Vim."
    points := 30 },
  { id := "macros_014"
    level := 5
    code := ["// Clipboard contains: external_data", "const value = '';"]
    cursor := ⟨1, 14⟩
    mission := "Paste from system clipboard using \"+p"
    solutions := ["\"+p"]
    optimal := "\"+p"
    hint := "\"+ accesses system clipboard, p pastes"
    explanation := "\"+p pastes whatever is in your system clipboard. This bridges Vim and other applications. Essential for copy-pasting from browsers, docs, etc."
    points := 30 },
  { id := "macros_015"
    level := 5
    code := [
      "const original = 'keep_this';",
      "const deleted = 'gone';  // You just deleted this",
      "const target = '';       // Want to paste 'keep_this' here"]
    cursor := ⟨2, 16⟩
    mission := "Paste the last YANKED text (not deleted) using \"0p"
    solutions := ["\"0p"]
    optimal := "\"0p"
    hint := "\"0 is the yank register - it only stores yanked text, never deleted"
    explanation := "\"0 is the yank register! It always contains your last yank, unaffected by deletes. This solves the problem of 'I yanked something but then deleted and lost it'."
    points := 30 }]

def macrosBoss : Boss where
  id := "macros_boss"
  name := "The Automation Wizard"
  lives := 3
  steps := [
    ⟨5,
      { id := "macros_boss_1"
        level := 5
        code := [
          "user1: active",
          "user2: active",
          "user3: active",
          "user4: active",
          "user5: active"]
        cursor := ⟨0, 0⟩
        mission := "Start recording a macro to register 'a'"
        solutions := ["qa"]
        optimal := "qa"
        points := 50 }⟩,
    ⟨5,
      { id := "macros_boss_2"
        level := 5
        code := ["[RECORDING @a]", "Edits made: f:r|j", "Ready to stop"]
        cursor := ⟨0, 0⟩
        mission := "Stop the macro recording"
        solutions := ["q"]
        optimal := "q"
        points := 50 }⟩,
    ⟨5,
      { id := "macros_boss_3"
        level := 5
        code := [
          "row1: pending",
          "row2: pending",
          "row3: pending",
          "row4: pending",
          "row5: pending"]
        cursor := ⟨1, 0⟩
        mission := "Execute the macro in register 'a'"
        solutions := ["@a"]
        optimal := "@a"
        points := 50 }⟩,
    ⟨5,
      { id := "macros_boss_4"
        level := 5
        code := ["item1: done", "item2: done", "item3: pending", "item4: pending", "item5: pending"]
        cursor := ⟨2, 0⟩
        mission := "Apply macro 'a' to remaining 3 lines with a count"
        solutions := ["3@a"]
        optimal := "3@a"
        points := 50 }⟩,
    ⟨6,
      { id := "macros_boss_5"
        level := 5
        code := [
          "// Yank register contains: 'savedValue'",
          "// You just deleted something else",
          "const x = '';  // paste yanked value here"]
        cursor := ⟨2, 11⟩
        mission := "Paste from the yank register (\"0)"
        solutions := ["\"0p"]
        optimal := "\"0p"
        points := 50 }⟩]
  bonusTime := 30

def macros : ChapterContent := ⟨macrosLessons, some macrosBoss⟩

end MotionTutor.Lessons

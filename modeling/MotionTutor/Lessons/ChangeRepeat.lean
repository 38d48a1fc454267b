import MotionTutor.Catalog.Chapter

/-!
# Changing and repeating

Operators on motions and objects, and doing it again.
-/

namespace MotionTutor.Lessons

def changeRepeatLessons : List Exercise := [
  { id := "cgn_001"
    code := ["let total = price + tax;"]
    cursor := ⟨0, 4⟩
    mission := "Delete the word 'total' and the space after it"
    solutions := ["dw", "daw"]
    optimal := "dw"
    hint := "d + w deletes up to the next word"
    explanation := "dw deletes from the cursor to the start of the next word. daw covers the same span here." },
  { id := "cgn_002"
    code := ["console.log(debugValue); // remove me"]
    cursor := ⟨0, 24⟩
    mission := "Delete the trailing comment from the cursor to the end of the line"
    solutions := ["D", "d$"]
    optimal := "D"
    hint := "D is short for d$"
    explanation := "D deletes from the cursor through the end of the line." },
  { id := "cgn_003"
    level := 2
    code := ["return oldValue || fallback;"]
    cursor := ⟨0, 7⟩
    mission := "Change everything from the cursor to the end of the line"
    solutions := ["C", "c$"]
    optimal := "C"
    hint := "C is short for c$"
    explanation := "C deletes to the end of the line and enters insert mode."
    points := 15 },
  { id := "cgn_004"
    level := 2
    code := ["const a = 1;", "debugger;", "const b = 2;"]
    cursor := ⟨1, 0⟩
    mission := "Delete the whole 'debugger;' line"
    solutions := ["dd"]
    optimal := "dd"
    hint := "Double the operator to act on the line"
    explanation := "dd deletes the current line. Any doubled operator (yy, cc, gUgU) acts on whole lines."
    points := 15 },
  { id := "cgn_005"
    level := 2
    code := ["const color = 'red';"]
    cursor := ⟨0, 6⟩
    mission := "Change the word 'color'"
    solutions := ["ciw", "cw", "ce"]
    optimal := "ciw"
    hint := "ciw changes the inner word wherever the cursor is inside it"
    explanation := "ciw changes the word under the cursor. cw on a word behaves like ce."
    points := 15 },
  { id := "cgn_006"
    level := 3
    code := ["oldName = fetch(oldName)", "print(oldName)"]
    cursor := ⟨0, 0⟩
    mission := "Start a change on the next 'oldName' that . can repeat"
    solutions := ["*cgn", "*Ncgn"]
    optimal := "*cgn"
    hint := "* searches the word under the cursor, cgn changes the next match"
    explanation := "cgn changes the next search match. After typing the replacement, . repeats it on the following match."
    points := 20 },
  { id := "cgn_007"
    level := 3
    code := ["oldName = fetch(newName)", "print(oldName)"]
    cursor := ⟨0, 0⟩
    mission := "Repeat the last change on the next match"
    solutions := ["."]
    optimal := "."
    hint := "The dot repeats the last change"
    explanation := "After a cgn change, . applies the same change to the next match of the pattern."
    points := 20 },
  { id := "cgn_008"
    code := ["let value = 42;;"]
    cursor := ⟨0, 14⟩
    mission := "Delete the extra semicolon under the cursor"
    solutions := ["x", "dl"]
    optimal := "x"
    hint := "x deletes the character under the cursor"
    explanation := "x is short for dl: delete one character to the right." }]

def changeRepeatBoss : Boss where
  id := "cgn_boss"
  name := "The Clone Army"
  lives := 3
  steps := [
    ⟨6,
      { id := "cgn_boss_1"
        level := 5
        code := ["const temp = compute(input);", "log(temp);"]
        cursor := ⟨0, 6⟩
        mission := "Delete 'temp ' with one operator"
        solutions := ["dw", "daw"]
        optimal := "dw"
        points := 50 }⟩,
    ⟨6,
      { id := "cgn_boss_2"
        level := 5
        code := ["return result; // TODO clean up"]
        cursor := ⟨0, 14⟩
        mission := "Delete from the cursor to the end of the line"
        solutions := ["D", "d$"]
        optimal := "D"
        points := 50 }⟩,
    ⟨6,
      { id := "cgn_boss_3"
        level := 5
        code := ["let status = \"pending\";"]
        cursor := ⟨0, 4⟩
        mission := "Change the word 'status'"
        solutions := ["ciw", "cw", "ce"]
        optimal := "ciw"
        points := 50 }⟩,
    ⟨5,
      { id := "cgn_boss_4"
        level := 5
        code := ["fn main() \x7b", "    dbg!(x);", "\x7d"]
        cursor := ⟨1, 4⟩
        mission := "Delete the debug line"
        solutions := ["dd"]
        optimal := "dd"
        points := 50 }⟩,
    ⟨8,
      { id := "cgn_boss_5"
        level := 5
        code := ["foo(bar)", "baz(bar)", "qux(bar)"]
        cursor := ⟨0, 4⟩
        mission := "Change the next 'bar' so the change can be repeated"
        solutions := ["*cgn", "*Ncgn"]
        optimal := "*cgn"
        points := 50 }⟩]
  bonusTime := 60

def changeRepeat : ChapterContent := ⟨changeRepeatLessons, some changeRepeatBoss⟩

end MotionTutor.Lessons

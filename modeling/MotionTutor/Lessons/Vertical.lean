import MotionTutor.Catalog.Chapter

/-!
# Motions across lines

Lines, paragraphs and the ends of a text.
-/

namespace MotionTutor.Lessons

def verticalLessons : List Exercise := [
  { id := "vertical_001"
    code := ["function greet() \x7b", "  console.log('Hello');", "  return true;", "\x7d"]
    cursor := ⟨0, 0⟩
    mission := "Move down to the console.log line using j"
    solutions := ["j"]
    optimal := "j"
    hint := "j moves the cursor down one line"
    explanation := "j is the most basic downward motion. Think of j as having a downward hook at the bottom of the letter." },
  { id := "vertical_002"
    code := ["function greet() \x7b", "  console.log('Hello');", "  return true;", "\x7d"]
    cursor := ⟨2, 2⟩
    mission := "Move up to the console.log line using k"
    solutions := ["k"]
    optimal := "k"
    hint := "k moves the cursor up one line"
    explanation := "k moves up. Together j and k are your bread and butter for vertical navigation. Think of k as pointing upward." },
  { id := "vertical_003"
    code := ["const a = 1;", "const b = 2;", "const c = 3;", "const d = 4;", "const e = 5;"]
    cursor := ⟨0, 0⟩
    mission := "Move down 3 lines to 'const d' using 3j"
    solutions := ["3j", "jjj"]
    optimal := "3j"
    hint := "You can prefix any motion with a count: \x7bn\x7dj"
    explanation := "\x7bcount\x7dj moves down count lines. 3j = jjj but faster to type. This works with any motion!"
    points := 15 },
  { id := "vertical_004"
    level := 2
    code := [
      "// File: utils.js",
      "function helper() \x7b",
      "  return 42;",
      "\x7d",
      "",
      "export default helper;"]
    cursor := ⟨4, 0⟩
    mission := "Jump to the first line of the file using gg"
    solutions := ["gg"]
    optimal := "gg"
    hint := "gg goes to the first line of the file"
    explanation := "gg instantly jumps to the top of the file. Essential for navigating large files. You can also use [n]gg to go to line n."
    points := 15 },
  { id := "vertical_005"
    level := 2
    code := [
      "// File: utils.js",
      "function helper() \x7b",
      "  return 42;",
      "\x7d",
      "",
      "export default helper;"]
    cursor := ⟨0, 0⟩
    mission := "Jump to the last line of the file using G"
    solutions := ["G"]
    optimal := "G"
    hint := "G (capital) goes to the last line"
    explanation := "G jumps to the end of the file. Use [n]G to go to a specific line number. gg and G are the vertical equivalent of 0 and $."
    points := 15 },
  { id := "vertical_006"
    level := 2
    code := ["line 1", "line 2", "line 3", "line 4 - target", "line 5", "line 6"]
    cursor := ⟨0, 0⟩
    mission := "Jump directly to line 4 using 4G"
    solutions := ["4G", "3j"]
    optimal := "4G"
    hint := "[n]G goes to line number n"
    explanation := "[n]G is incredibly useful when you know the line number (from errors, linters, etc). Much faster than counting j presses!"
    points := 20 },
  { id := "vertical_007"
    level := 2
    code := ["line 1", "line 2", "line 3 - target", "line 4", "line 5"]
    cursor := ⟨4, 0⟩
    mission := "Jump to line 3 using 3gg"
    solutions := ["3gg", "2k"]
    optimal := "3gg"
    hint := "[n]gg also goes to line n, same as [n]G"
    explanation := "Both [n]gg and [n]G go to line n. Some prefer gg because it's easier to type. Use whichever feels natural."
    points := 20 },
  { id := "vertical_008"
    level := 3
    code := [
      "function first() \x7b",
      "  return 1;",
      "\x7d",
      "",
      "function second() \x7b",
      "  return 2;",
      "\x7d"]
    cursor := ⟨0, 0⟩
    mission := "Jump to the blank line between functions using \x7d"
    solutions := ["\x7d"]
    optimal := "\x7d"
    hint := "\x7d moves to the next blank line (paragraph boundary)"
    explanation := "\x7d jumps forward to the next blank line. In code, this usually means jumping between functions or blocks. Super useful!"
    points := 20 },
  { id := "vertical_009"
    level := 3
    code := [
      "function first() \x7b",
      "  return 1;",
      "\x7d",
      "",
      "function second() \x7b",
      "  return 2;",
      "\x7d"]
    cursor := ⟨5, 2⟩
    mission := "Jump back to the blank line using \x7b"
    solutions := ["\x7b"]
    optimal := "\x7b"
    hint := "\x7b moves to the previous blank line"
    explanation := "\x7b jumps backward to the previous blank line. Combined with \x7d, you can quickly navigate between code blocks."
    points := 20 },
  { id := "vertical_010"
    level := 3
    code := ["if (condition) \x7b", "    doSomething();", "    doMore();", "\x7d"]
    cursor := ⟨0, 0⟩
    mission := "Move to the first non-blank character of the next line using +"
    solutions := ["+", "j^"]
    optimal := "+"
    hint := "+ moves down and to the first non-blank character"
    explanation := "+ is like j followed by ^. It moves to the next line's first non-blank character. Great for navigating indented code."
    points := 20 },
  { id := "vertical_011"
    level := 3
    code := ["if (condition) \x7b", "    doSomething();", "    doMore();", "\x7d"]
    cursor := ⟨2, 4⟩
    mission := "Move to the first non-blank character of the previous line using -"
    solutions := ["-", "k^"]
    optimal := "-"
    hint := "- moves up and to the first non-blank character"
    explanation := "- is like k followed by ^. Moves to previous line's first non-blank. Together + and - help you navigate indented blocks."
    points := 20 },
  { id := "vertical_012"
    level := 4
    code := [
      "function App() \x7b",
      "  const [count, setCount] = useState(0);",
      "",
      "  return (",
      "    <button onClick=\x7b() => setCount(c => c + 1)\x7d>",
      "      Count: \x7bcount\x7d",
      "    </button>",
      "  );",
      "\x7d"]
    cursor := ⟨0, 0⟩
    mission := "Jump to the 'return' statement (line 4) using 3j"
    solutions := ["3j"]
    optimal := "3j"
    hint := "Count the lines or use relative line numbers if enabled"
    explanation := "In real editing, enable relative line numbers (:set relativenumber) to easily see counts. Then [n]j becomes natural."
    points := 25 },
  { id := "vertical_013"
    level := 4
    code := [
      "// Block 1",
      "const a = 1;",
      "",
      "// Block 2",
      "const b = 2;",
      "",
      "// Block 3",
      "const c = 3;"]
    cursor := ⟨0, 0⟩
    mission := "Jump forward two paragraph boundaries using 2\x7d"
    solutions := ["2\x7d"]
    optimal := "2\x7d"
    hint := "You can use counts with \x7d and \x7b too"
    explanation := "2\x7d jumps two blank lines forward. This is faster than \x7d\x7d and works great in code with consistent spacing."
    points := 25 },
  { id := "vertical_014"
    level := 5
    code := [
      "const config = \x7b",
      "  name: 'app',",
      "  version: '1.0.0',",
      "  debug: true,",
      "\x7d;"]
    cursor := ⟨0, 0⟩
    mission := "Navigate to 'debug' using 3j then w"
    solutions := ["3jw"]
    optimal := "3jw"
    hint := "You can chain any motions together"
    explanation := "Vim motions compose naturally. 3jw = go down 3 lines, then next word. This is the power of modal editing!"
    points := 30 },
  { id := "vertical_015"
    level := 5
    code := [
      "export function api() \x7b",
      "  // implementation",
      "\x7d",
      "",
      "export function helper() \x7b",
      "  // implementation",
      "\x7d",
      "",
      "export function main() \x7b",
      "  // TARGET: this line",
      "\x7d"]
    cursor := ⟨0, 0⟩
    mission := "Reach the 'TARGET' comment using G then k"
    solutions := ["Gk"]
    optimal := "Gk"
    hint := "Sometimes going to the end and moving back is faster"
    explanation := "Real Vim mastery is knowing multiple ways and choosing the fastest. Gk = end of file, one line up. Sometimes that's fastest!"
    points := 30 }]

def verticalBoss : Boss where
  id := "vertical_boss"
  name := "The Code Climber"
  lives := 3
  steps := [
    ⟨5,
      { id := "vertical_boss_1"
        level := 5
        code := [
          "import express from 'express';",
          "import cors from 'cors';",
          "import helmet from 'helmet';",
          "",
          "const app = express();",
          "",
          "app.use(cors());",
          "app.use(helmet());",
          "",
          "app.listen(3000);"]
        cursor := ⟨0, 0⟩
        mission := "Jump to the blank line after imports"
        solutions := ["\x7d", "3j"]
        optimal := "\x7d"
        points := 50 }⟩,
    ⟨5,
      { id := "vertical_boss_2"
        level := 5
        code := [
          "import express from 'express';",
          "import cors from 'cors';",
          "import helmet from 'helmet';",
          "",
          "const app = express();",
          "",
          "app.use(cors());",
          "app.use(helmet());",
          "",
          "app.listen(3000);"]
        cursor := ⟨3, 0⟩
        mission := "Jump to the last line (app.listen)"
        solutions := ["G"]
        optimal := "G"
        points := 50 }⟩,
    ⟨5,
      { id := "vertical_boss_3"
        level := 5
        code := [
          "import express from 'express';",
          "import cors from 'cors';",
          "import helmet from 'helmet';",
          "",
          "const app = express();",
          "",
          "app.use(cors());",
          "app.use(helmet());",
          "",
          "app.listen(3000);"]
        cursor := ⟨9, 0⟩
        mission := "Jump back to the very first line"
        solutions := ["gg"]
        optimal := "gg"
        points := 50 }⟩,
    ⟨6,
      { id := "vertical_boss_4"
        level := 5
        code := [
          "import express from 'express';",
          "import cors from 'cors';",
          "import helmet from 'helmet';",
          "",
          "const app = express();",
          "",
          "app.use(cors());",
          "app.use(helmet());",
          "",
          "app.listen(3000);"]
        cursor := ⟨0, 0⟩
        mission := "Jump to line 7 (app.use(cors))"
        solutions := ["7G", "6j"]
        optimal := "7G"
        points := 50 }⟩,
    ⟨6,
      { id := "vertical_boss_5"
        level := 5
        code := [
          "import express from 'express';",
          "import cors from 'cors';",
          "import helmet from 'helmet';",
          "",
          "const app = express();",
          "",
          "app.use(cors());",
          "app.use(helmet());",
          "",
          "app.listen(3000);"]
        cursor := ⟨6, 0⟩
        mission := "Jump back to 'const app' line using \x7b"
        solutions := ["\x7bk", "2k"]
        optimal := "\x7bk"
        points := 50 }⟩]
  bonusTime := 30

def vertical : ChapterContent := ⟨verticalLessons, some verticalBoss⟩

end MotionTutor.Lessons

import MotionTutor.Catalog.Load
import MotionTutor.Lessons.ChangeRepeat
import MotionTutor.Lessons.Horizontal
import MotionTutor.Lessons.Macros
import MotionTutor.Lessons.Patterns
import MotionTutor.Lessons.Substitution
import MotionTutor.Lessons.TextObjects
import MotionTutor.Lessons.Vertical

/-!
# The lessons that come with the tutor

The corpus used where no other is given.
-/

namespace MotionTutor

namespace Lessons

def modules : List ModuleInfo := [
  { id := "horizontal"
    name := "Horizontal Motions"
    description := "w, W, e, E, b, B, f, F, t, T, ;, ,, 0, $, ^"
    bossName := "The Line Walker" },
  { id := "vertical"
    name := "Vertical Motions"
    description := "j, k, gg, G, \x7b, \x7d, +, -, _"
    bossName := "The Code Tower" },
  { id := "textobjects"
    name := "Text Objects"
    description := "viw, vaw, vi\", va\", vi\x7b, diw, daw, ci\", di\x7b, yiw, yi\""
    bossName := "The Bracket Demon" },
  { id := "cgn"
    name := "Change & Repeat"
    description := "d, c, dd, D, C, x, *, gn, cgn, ."
    bossName := "The Clone Army" },
  { id := "substitution"
    name := "Substitution"
    description := "r, R, s, S, ~, gu, gU, J, :s, :%s, flags (g, c, i)"
    bossName := "The Transformer"
    judging := .literal },
  { id := "regex"
    name := "Regex & Vimgrep"
    description := "/, ?, n, N, *, #, \\v, :vimgrep, :copen, :cnext"
    bossName := "The Pattern Master"
    judging := .literal },
  { id := "macros"
    name := "Macros"
    description := "qa, q, @a, @@, :normal, :g/pattern/"
    bossName := "The Automaton"
    judging := .literal }]

/-- The content of a module. -/
def content : String → Except CorpusFault ChapterContent
  | "horizontal" => .ok horizontal
  | "vertical" => .ok vertical
  | "textobjects" => .ok textObjects
  | "cgn" => .ok changeRepeat
  | "substitution" => .ok substitution
  | "regex" => .ok patterns
  | "macros" => .ok macros
  | _ => .error (.unreadable .notFound)

end Lessons

/-- The corpus that comes with the tutor. -/
def Corpus.builtin : Corpus := ⟨.ok Lessons.modules, Lessons.content⟩

/-- The catalog that comes with the tutor. -/
def Catalog.builtin : Except CatalogError Catalog := Catalog.load .builtin

end MotionTutor

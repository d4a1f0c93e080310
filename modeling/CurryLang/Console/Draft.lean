import CurryLang.Text.Grapheme

/-!
# Drafts

A line of an interactive session is typed cluster by cluster, and a backspace takes the last
cluster back. For each cluster the draft keeps its width in UTF-8 bytes, in a single byte, so a
cluster that is wider than 255 bytes is taken back only in part.
-/

namespace CurryLang.Console

/-- The character that takes back what was typed before it. -/
def backspace : Char := '\x08'

/-- The number of bytes of a text in UTF-8. -/
def byteWidth : List Char → Nat
  | [] => 0
  | c :: cs => c.utf8Size + byteWidth cs

/-- Drops characters from the front of a list until `n` bytes are gone. -/
def dropBytes : Nat → List Char → List Char
  | 0, cs => cs
  | _, [] => []
  | n + 1, c :: cs => dropBytes (n + 1 - c.utf8Size) cs

/-- A line that is being typed. -/
structure Draft where
  /-- The characters, the last one first. -/
  typed : List Char
  /-- The widths of the clusters, modulo 256, the last one first. -/
  widths : List Nat

namespace Draft

def empty : Draft := ⟨[], []⟩

def line (d : Draft) : List Char := d.typed.reverse

def type (d : Draft) (cluster : List Char) : Draft :=
  ⟨cluster.reverse ++ d.typed, byteWidth cluster % 256 :: d.widths⟩

/-- Takes the last cluster back, if there is one. -/
def takeBack (d : Draft) : Draft :=
  match d.widths with
  | [] => d
  | w :: ws => ⟨dropBytes w d.typed, ws⟩

/-- A backspace takes back, any other cluster is typed. -/
def press (d : Draft) (cluster : List Char) : Draft :=
  if cluster = [backspace] then d.takeBack else d.type cluster

end Draft

/-- A line after its backspaces took effect. -/
def edited (cs : List Char) : List Char := ((Text.clusters cs).foldl Draft.press .empty).line

end CurryLang.Console

import CurryLang.Text.Grapheme.BreakClass

/-!
# Clusters of characters

A cluster is what a reader takes for one character: a letter with its accents, a syllable, a flag,
an emoji made of several. Texts are cut into extended grapheme clusters from left to right; whether
a cluster goes on depends on the class of the next character and on a short summary of the
characters before it.
-/

namespace CurryLang.Text

/-- How far a conjunct of consonants has been read. -/
inductive Conjunct where
  | absent
  /-- A consonant, and perhaps signs on it. -/
  | begun
  /-- A consonant and a linker, so that the next consonant belongs to it. -/
  | linked
  deriving DecidableEq

/-- What the characters read so far say about the place after them. -/
structure ClusterContext where
  /-- The class of the last character. -/
  last : BreakClass
  /-- The last characters are a pictograph, signs on it, and perhaps one joiner. -/
  pictograph : Bool
  conjunct : Conjunct
  /-- The last characters are an odd number of regional indicators. -/
  halfFlag : Bool

namespace ClusterContext

def start : ClusterContext := ⟨.other, false, .absent, false⟩

/-- Whether the text still ends in a pictograph with its signs after the next character. -/
def pictographAfter (x : ClusterContext) : BreakClass → Bool
  | .pictograph => true
  | .extend | .linker | .nonJoiner | .joiner => x.pictograph && x.last != .joiner
  | _ => false

/-- The conjunct after the next character. -/
def conjunctAfter (x : ClusterContext) : BreakClass → Conjunct
  | .consonant => .begun
  | .linker => if x.conjunct = .absent then .absent else .linked
  | .extend | .joiner => x.conjunct
  | _ => .absent

/-- The context after one more character of this class. -/
def after (x : ClusterContext) (b : BreakClass) : ClusterContext where
  last := b
  pictograph := x.pictographAfter b
  conjunct := x.conjunctAfter b
  halfFlag := b == .regionalIndicator && !x.halfFlag

/-- Whether two parts of a Hangul syllable belong together. -/
def joinsSyllable : BreakClass → BreakClass → Bool
  | .leadingJamo, .leadingJamo | .leadingJamo, .vowelJamo | .leadingJamo, .openSyllable
  | .leadingJamo, .closedSyllable | .openSyllable, .vowelJamo | .openSyllable, .trailingJamo
  | .vowelJamo, .vowelJamo | .vowelJamo, .trailingJamo | .closedSyllable, .trailingJamo
  | .trailingJamo, .trailingJamo => true
  | _, _ => false

/-- Whether the character belongs to the cluster before it whatever that is. -/
def isAttached : BreakClass → Bool
  | .extend | .linker | .nonJoiner | .joiner | .spacingMark => true
  | _ => false

/-- Whether the next character, of this class, continues the cluster. -/
def joins (x : ClusterContext) (b : BreakClass) : Bool :=
  if x.last.isControl || b.isControl then x.last == .carriageReturn && b == .lineFeed
  else
    isAttached b || x.last == .prepended || joinsSyllable x.last b ||
      (b == .consonant && x.conjunct == .linked) ||
      (b == .pictograph && x.last == .joiner && x.pictograph) ||
      (b == .regionalIndicator && x.halfFlag)

end ClusterContext

/-- The clusters of a text; `cluster` is the part of the current one read so far, backwards, and
`x` the context after it. -/
def clustersFrom (x : ClusterContext) (cluster : List Char) : List Char → List (List Char)
  | [] => [cluster.reverse]
  | c :: cs =>
    let b := BreakClass.ofChar c
    if x.joins b then clustersFrom (x.after b) (c :: cluster) cs
    else cluster.reverse :: clustersFrom (x.after b) [c] cs

def clusters : List Char → List (List Char)
  | [] => []
  | c :: cs => clustersFrom (ClusterContext.start.after (BreakClass.ofChar c)) [c] cs

end CurryLang.Text

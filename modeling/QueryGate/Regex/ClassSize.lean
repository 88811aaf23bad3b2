import QueryGate.Regex.CharClass

/-!
# The size of sets

The bytes that a set of characters takes in an automaton which reads the UTF-8 encoding of a text
from its end. A set is cut wherever its characters may begin or end (`CharClass.cuts`), and the cuts
where they do bound its runs (`CharClass.runs`). What is measured are the runs (`CharClass.size`),
so that it does not matter how the set was written.
-/

namespace QueryGate.Regex

/-! ## Runs -/

/-- Where ranges begin, and where they are over. -/
def rangeCuts (ranges : List (Nat × Nat)) : List Nat :=
  ranges.flatMap fun r => [r.1, r.2 + 1]

/-- Where the runs of a table begin. -/
def tableCuts (runs : Array (Nat × String)) : List Nat :=
  runs.toList.map (·.1)

/-- Cuts on both sides of every ASCII character. -/
def asciiCuts : List Nat :=
  List.range 129

/-- The ranges of white space. -/
def whiteRanges : List (Nat × Nat) := [
  (0x09, 0x0D), (0x20, 0x20), (0x85, 0x85), (0xA0, 0xA0), (0x1680, 0x1680), (0x2000, 0x200A),
  (0x2028, 0x2029), (0x202F, 0x202F), (0x205F, 0x205F), (0x3000, 0x3000)]

/-- The code points at which a property may begin or end to hold. -/
def Property.cuts : Property → List Nat
  | any => []
  | ascii => [0x80]
  | word => asciiCuts ++ rangeCuts Text.alphabeticRanges ++ tableCuts categoryTable ++
      rangeCuts [(0x200C, 0x200C), (0x200D, 0x200D)]
  | digit => asciiCuts ++ tableCuts categoryTable
  | space => rangeCuts whiteRanges
  | alphabetic => asciiCuts ++ rangeCuts Text.alphabeticRanges
  | category _ => tableCuts categoryTable
  | script _ => tableCuts scriptTable
  | table ranges => rangeCuts ranges

namespace CharClass

/-- The members of the orbits beyond ASCII that meet a set. -/
def orbitMembers (a : CharClass) : List Nat :=
  (caseOrbitTable.filter fun row => row.any fun n => a.mem (Char.ofNat n)).flatten

/-- The code points at which a set may begin or end to have members. -/
def cuts : CharClass → List Nat
  | empty => []
  | range first last => rangeCuts [(first.toNat, last.toNat)]
  | property p => p.cuts
  | compl a => a.cuts
  | union a b => a.cuts ++ b.cuts
  | inter a b => a.cuts ++ b.cuts
  | diff a b => a.cuts ++ b.cuts
  | symmDiff a b => a.cuts ++ b.cuts
  | folded a => a.cuts ++ asciiCuts ++ rangeCuts (a.orbitMembers.map fun n => (n, n))
  | foldedAscii a => a.cuts ++ asciiCuts

/-- Whether a number is the code point of a character of the set. -/
def memAt (a : CharClass) (n : Nat) : Bool :=
  decide n.isValidChar && a.mem (Char.ofNat n)

/-- Whether a member begins or ends a run at a number. -/
def changesAt (a : CharClass) (n : Nat) : Bool :=
  a.memAt n != (0 < n && a.memAt (n - 1))

end CharClass

/-- Puts a number into an ascending list, where it is not in it yet. -/
def insertOnce (n : Nat) : List Nat → List Nat
  | [] => [n]
  | m :: ms => if n < m then n :: m :: ms else if n = m then m :: ms else m :: insertOnce n ms

/-- The ranges between every second number and the one behind it. -/
def pairUp : List Nat → List (Nat × Nat)
  | first :: next :: rest => (first, next - 1) :: pairUp rest
  | _ => []

namespace CharClass

/-- The code points where the runs of a set begin and where they are over, in order. Surrogates are
no characters. -/
def edges (a : CharClass) : List Nat :=
  (([0, 0xD800, 0xE000, 0x110000] ++ a.cuts).filter a.changesAt).foldr insertOnce []

/-- The runs of the characters of a set, in order. -/
def runs (a : CharClass) : List (Nat × Nat) :=
  pairUp a.edges

end CharClass

/-! ## Encodings -/

/-- The numbers from `first` to `last`, written with `k` digits to the base 64 behind the first one,
as sequences of ranges of digits. -/
def digitRanges : (k first last : Nat) → List (List (Nat × Nat))
  | 0, first, last => [[(first, last)]]
  | k + 1, first, last =>
    let unit := Nat.pow 64 (k + 1)
    let low := first / unit
    let high := last / unit
    if low = high then (digitRanges k (first % unit) (last % unit)).map ((low, low) :: ·)
    else
      -- A first digit whose numbers are all in the range needs no sequence of its own.
      let whole := first % unit = 0
      let wholeEnd := last % unit + 1 = unit
      let head := if whole then [] else
        (digitRanges k (first % unit) (unit - 1)).map ((low, low) :: ·)
      let tail := if wholeEnd then [] else
        (digitRanges k 0 (last % unit)).map ((high, high) :: ·)
      let least := if whole then low else low + 1
      let most := if wholeEnd then high else high - 1
      let body := if least ≤ most then [(least, most) :: List.replicate (k + 1) (0, 63)] else []
      head ++ body ++ tail

/-- Marks the first digits as those of encodings with a certain number of bytes. -/
def withLead (lead : Nat) : List (Nat × Nat) → List (Nat × Nat)
  | [] => []
  | r :: rs => (lead + r.1, lead + r.2) :: rs

/-- The encodings of a run of characters as sequences of ranges of bytes. Of the bytes behind the
first one, only the digits count. -/
def encodings (run : Nat × Nat) : List (List (Nat × Nat)) :=
  [(0, 0x7F, 0, 0), (0x80, 0x7FF, 1, 0xC0), (0x800, 0xFFFF, 2, 0xE0),
    (0x10000, 0x10FFFF, 3, 0xF0)].flatMap fun (least, most, k, lead) =>
      let first := max run.1 least
      let last := min run.2 most
      if first ≤ last then (digitRanges k first last).map (withLead lead) else []

/-- How far two sequences agree. -/
def agreement : List (Nat × Nat) → List (Nat × Nat) → Nat
  | r :: rs, q :: qs => if r = q then agreement rs qs + 1 else 0
  | _, _ => 0

/-- The states for ascending sequences behind the sequence `before`. Sequences share the states of
what they begin with. -/
def stateCount (before : List (Nat × Nat)) : List (List (Nat × Nat)) → Nat
  | [] => 0
  | rs :: rest => rs.length - agreement before rs + stateCount rs rest

/-- The bytes that runs of characters take in an automaton. Among ASCII one state has a transition
for each run. -/
def sizeOfRuns (runs : List (Nat × Nat)) : Nat :=
  if runs.all fun run => run.2 < 0x80 then 64 + 8 * runs.length
  else
    let sequences := runs.flatMap encodings
    64 + 4 * sequences.length + 32 * stateCount [] sequences

/-- The bytes a set of characters takes in an automaton. A single character is a text. -/
def CharClass.size (a : CharClass) : Nat :=
  match a.runs with
  | [(first, last)] =>
    if first = last then 32 * (Char.ofNat first).utf8Size else sizeOfRuns [(first, last)]
  | runs => sizeOfRuns runs

end QueryGate.Regex

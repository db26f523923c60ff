/-!
Sets of characters as closed intervals of code points. The operations take lists in ascending order
without overlaps, as `joined` leaves them, and give such lists.
-/

namespace HyperSchema.Text

abbrev Ranges := List (Nat × Nat)

namespace Ranges

def contains (r : Ranges) (c : Char) : Bool :=
  r.any fun (lo, hi) => lo ≤ c.toNat && c.toNat ≤ hi

def single (c : Char) : Ranges := [(c.toNat, c.toNat)]

def lastCode : Nat := 0x10FFFF

def everything : Ranges := [(0, lastCode)]

/-- The next code point that is a character. -/
def after (n : Nat) : Nat := if n = 0xD7FF then 0xE000 else n + 1

/-- The last code point before `n` that is a character. -/
def before (n : Nat) : Nat := if n = 0xE000 then 0xD7FF else n - 1

/-- Joins neighbours that overlap or touch in a list in ascending order. -/
def joined : Ranges → Ranges
  | [] => []
  | [r] => [r]
  | (a, b) :: (c, d) :: rest =>
    if c ≤ b + 1 then joined ((a, max b d) :: rest) else (a, b) :: joined ((c, d) :: rest)
termination_by r => r.length

/-- The set of these ranges, in whatever order they stand. -/
def ofList (r : Ranges) : Ranges :=
  joined (r.mergeSort fun a b => a.1 < b.1 || (a.1 == b.1 && a.2 ≤ b.2))

def union (r s : Ranges) : Ranges := ofList (r ++ s)

/-- The gaps that follow a range. A gap of nothing but surrogates is bounded by the characters
around it. -/
def gapsAfter (b : Nat) : Ranges → Ranges
  | [] => if b < lastCode then [(after b, lastCode)] else []
  | (c, d) :: rest =>
    (min (after b) (before c), max (after b) (before c)) :: gapsAfter d rest

def complement : Ranges → Ranges
  | [] => everything
  | (a, b) :: rest => (if 0 < a then [(0, before a)] else []) ++ gapsAfter b rest

def intersection : Ranges → Ranges → Ranges
  | [], _ | _, [] => []
  | (a, b) :: r, (c, d) :: s =>
    let rest := if b < d then intersection r ((c, d) :: s) else intersection ((a, b) :: r) s
    if max a c ≤ min b d then (max a c, min b d) :: rest else rest
termination_by r s => r.length + s.length

def difference : Ranges → Ranges → Ranges
  | [], _ => []
  | r, [] => r
  | (a, b) :: r, (c, d) :: s =>
    if d < a then difference ((a, b) :: r) s
    else if b < c then (a, b) :: difference r ((c, d) :: s)
    else
      (if a < c then [(a, before c)] else []) ++
        if d < b then difference ((after d, b) :: r) s else difference r ((c, d) :: s)
termination_by r s => r.length + s.length

def symmetricDifference (r s : Ranges) : Ranges := difference (union r s) (intersection r s)

end Ranges

/-- Code points `first`, `first + step`, … up to `last`, each moved by `shift`. -/
structure Shift where
  first : Nat
  last : Nat
  step : Nat
  shift : Int

namespace Shift

def covers (s : Shift) (c : Char) : Bool :=
  s.first ≤ c.toNat && c.toNat ≤ s.last && (c.toNat - s.first) % s.step == 0

/-- The code points of the row between two bounds, moved by `moveBy`. -/
def moved (s : Shift) (moveBy : Int) (lo hi : Int) : Ranges :=
  let a := max lo s.first
  let a := a + (s.first - a) % s.step
  let b := min hi s.last
  if b < a then []
  else if s.step = 1 then [((a + moveBy).toNat, (b + moveBy).toNat)]
  else (List.range (((b - a) / s.step).toNat + 1)).map fun (i : Nat) =>
    let n := (a + i * s.step + moveBy).toNat
    (n, n)

/-- Where the row moves members of a set. -/
def images (s : Shift) (r : Ranges) : Ranges := r.flatMap fun (lo, hi) => s.moved s.shift lo hi

/-- What the row moves into a set. -/
def sources (s : Shift) (r : Ranges) : Ranges :=
  r.flatMap fun (lo, hi) => s.moved 0 (lo - s.shift) (hi - s.shift)

end Shift

/-- The image of `c` under the first row that covers it; `c` itself when none does. -/
def applyShifts (rows : List Shift) (c : Char) : Char :=
  match rows.find? (·.covers c) with
  | some s => Char.ofNat (c.toNat + s.shift).toNat
  | none => c

end HyperSchema.Text

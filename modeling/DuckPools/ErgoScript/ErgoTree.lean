import DuckPools.ErgoScript.Expr

/-!
# Scripts with a header

The bytes that guard a box: a header, the segregated constants and the tree. A header that
gives the size of what follows lets a reader skip a script it does not know, so only the
first version may do without.
-/

namespace DuckPools.ErgoScript

variable {Point : Type} (E : Curve Point)

/-- Deeper trees are rejected. -/
def maxTreeDepth : Nat := 110

/-- A script: a tree, with its constants in front of it if they are segregated. -/
structure ErgoTree (Point : Type) where
  version : BitVec 3
  /-- Whether the header gives the size of the script. -/
  sized : Bool
  constants : Option (List (Const Point))
  root : Expr Point

namespace ErgoTree

/-- The first byte: the version, and a bit each for the size and the constants. -/
def header (version : BitVec 3) (sized segregated : Bool) : Byte :=
  BitVec.ofNat 8 (version.toNat + (if sized then 8 else 0) + (if segregated then 16 else 0))

theorem header_fields (version : BitVec 3) (sized segregated : Bool) :
    (header version sized segregated).toNat < 32 ∧
      (header version sized segregated).setWidth 3 = version ∧
      decide ((header version sized segregated).toNat / 8 % 2 = 1) = sized ∧
      decide ((header version sized segregated).toNat / 16 = 1) = segregated := by
  revert version sized segregated
  decide

def serializeConstants : Option (List (Const Point)) → Bytes
  | none => []
  | some constants => Vlq.encode constants.length ++ constants.flatMap (Const.serialize E)

/-- What follows the header. -/
def contents (t : ErgoTree Point) : Bytes := serializeConstants E t.constants ++ t.root.serialize E

def serialize (t : ErgoTree Point) : Bytes :=
  header t.version t.sized t.constants.isSome ::
    if t.sized then Vlq.encode (t.contents E).length ++ t.contents E else t.contents E

def readConstants (segregated : Bool) : Reader Byte (Option (List (Const Point))) :=
  if segregated then do
    let n ← vlq
    let constants ← (Const.typed E maxTreeDepth).times n
    return some constants
  else return none

def readContents (version : BitVec 3) (sized segregated : Bool) : Reader Byte (ErgoTree Point) := do
  let constants ← readConstants E segregated
  let root ← Expr.reader E maxTreeDepth
  return { version, sized, constants, root }

/-- Only the first version of scripts may leave out its size. -/
def reader : Reader Byte (ErgoTree Point) := do
  let b ← Reader.next
  let version := b.setWidth 3
  let sized := decide (b.toNat / 8 % 2 = 1)
  let segregated := decide (b.toNat / 16 = 1)
  if b.toNat < 32 then
    if sized then
      let n ← vlq
      let contents ← Reader.take n
      Reader.ofOption ((readContents E version sized segregated).parse contents)
    else if version = 0 then readContents E version sized segregated
    else Reader.fail
  else Reader.fail

/-- The script that a box with these bytes is guarded by. -/
def parse (bytes : Bytes) : Option (ErgoTree Point) := (reader E).parse bytes

/-- The script has a size where it needs one, and no part of it is too deep. -/
structure WellFormed (t : ErgoTree Point) : Prop where
  sized : t.sized = true ∨ t.version = 0
  constants : ∀ cs, t.constants = some cs → ∀ c ∈ cs, c.depth ≤ maxTreeDepth
  root : t.root.depth ≤ maxTreeDepth

variable {E}

theorem reads_constants {constants : Option (List (Const Point))}
    (h : ∀ cs, constants = some cs → ∀ c ∈ cs, c.depth ≤ maxTreeDepth) :
    Reads (readConstants E constants.isSome) (serializeConstants E constants) constants := by
  cases constants with
  | none => exact Reads.pure _
  | some cs =>
      have all := Reads.times fun c hc => Const.reads_typed E c (h cs rfl c hc)
      exact (reads_vlq _).bind (all.bind_pure (Reads.pure _))

theorem reads_contents {t : ErgoTree Point} (h : t.WellFormed) :
    Reads (readContents E t.version t.sized t.constants.isSome) (t.contents E) t :=
  (reads_constants h.constants).bind ((Expr.reads t.root h.root).bind_pure (Reads.pure _))

theorem reads {t : ErgoTree Point} (h : t.WellFormed) : Reads (reader E) (t.serialize E) t := by
  obtain ⟨range, version, sized, segregated⟩ :=
    header_fields t.version t.sized t.constants.isSome
  apply Reads.cons
  simp only [range, version, sized, segregated, if_true]
  cases size : t.sized with
  | true =>
      have contents := @reads_contents _ E t h
      rw [size] at contents
      exact (reads_vlq _).bind ((Reads.take _).bind_pure (Reads.ofOption contents.parse))
  | false =>
      have first : t.version = 0 := h.sized.resolve_left (by simp [size])
      have contents := @reads_contents _ E t h
      rw [size, first] at contents
      rw [if_neg Bool.false_ne_true, if_neg Bool.false_ne_true, if_pos first, first]
      exact contents

/-- A script is determined by its bytes, and read back from them. -/
theorem parse_serialize {t : ErgoTree Point} (h : t.WellFormed) :
    parse E (t.serialize E) = some t :=
  (reads h).parse

/-- A tree of the first version that is a constant key is its point and nothing else. -/
theorem reader_publicKey (key : Bytes) :
    reader E (0x00 :: 0x08 :: 0xcd :: key) = (point E key).map fun r =>
      (⟨0, false, none, .constant (.sigmaProp (.proveDlog r.1))⟩, r.2) := by
  have inner : SigmaProp.reader E 109 (0xcd :: key) =
      (point E key).map fun r => (.proveDlog r.1, r.2) := by
    show (point E key).bind _ = _
    cases point E key <;> rfl
  show (((SigmaProp.reader E 109 (0xcd :: key)).bind _).bind _).bind _ = _
  rw [inner]
  cases point E key <;> rfl

/-- So it is 36 bytes long. -/
theorem length_of_parse_publicKey {key : Bytes}
    (parses : (parse E (0x00 :: 0x08 :: 0xcd :: key)).isSome = true) : key.length = 33 := by
  cases hp : point E key with
  | none =>
      rw [parse, Reader.parse, reader_publicKey, hp] at parses
      cases parses
  | some r =>
      obtain ⟨p, rest⟩ := r
      obtain ⟨long, rfl⟩ := point_eq_some hp
      cases left : key.drop 33 with
      | nil =>
          have short := List.drop_eq_nil_iff.mp left
          omega
      | cons b bs =>
          rw [parse, Reader.parse, reader_publicKey, hp, left] at parses
          cases parses

end ErgoTree

end DuckPools.ErgoScript

import SignedAccess.Record.Field

/-!
# Fields that are read

A field is read just when its value is one that its reader takes.  Where it stands, and what it is
called, matters to the faults only.

    required fields key read = .ok a ↔ ∃ j, fieldOf? key fields = some j ∧ read j = .ok a
                                                                     (required_eq_ok_iff)
    int j = .ok n ↔ CountsAs j n                                     (int_eq_ok_iff)
-/

namespace SignedAccess

namespace Decoded

variable {α : Type}

theorem under_eq_ok_iff {key : Text} {d : Decoded α} {a : α} : under key d = .ok a ↔ d = .ok a := by
  cases d with
  | error faults => exact ⟨fun h => (nomatch h), fun h => (nomatch h)⟩
  | ok b => exact Iff.rfl

theorem orReject_eq_ok_iff {kind : RecordKind} {d : Decoded α} {a : α} :
    orReject kind d = .ok a ↔ d = .ok a := by
  cases d with
  | error faults => exact ⟨fun h => (nomatch h), fun h => (nomatch h)⟩
  | ok b => exact ⟨fun h => congrArg _ (Except.ok.inj h), fun h => congrArg _ (Except.ok.inj h)⟩

end Decoded

namespace Field

open Decoded

variable {α : Type} {read : Json → Decoded α} {fields : List (Text × Json)} {key : String}
  {j : Json}

/-! ## Single values -/

/-- Whether a value counts as an integer: it is one, or a truth value, or a number without a
fraction that fits a machine word, or the text of an integer. -/
inductive CountsAs : Json → Int → Prop
  | int (n : Int) : CountsAs (.int n) n
  | bool (b : Bool) : CountsAs (.bool b) (if b then 1 else 0)
  | real {negative : Bool} {m : Nat} {e : Int} (hwhole : Binary64.isWhole m e = true)
      (hlimit : Binary64.wholePart m e < realLimit) :
      CountsAs (.real (.finite negative m e)) (Binary64.finite negative m e).truncate
  | text {t : Text} {n : Int} (h : Decimal.readLoose t = .ok n) : CountsAs (.text t) n

inductive IsString : Json → CodeText → Prop
  | text (t : Text) : IsString (.text t) (.ofText t)
  | unpaired (t : CodeText) : IsString (.unpaired t) t

theorem string_eq_ok_iff {t : CodeText} : string j = .ok t ↔ IsString j t := by
  constructor
  · intro h
    unfold string at h
    split at h
    · cases h
      exact .text _
    · cases h
      exact .unpaired _
    · cases h
  · rintro (_ | _)
    · rfl
    · rfl

theorem nonempty_eq_ok_iff {t : { t : Text // t ≠ [] }} :
    nonempty j = .ok t ↔ j = .text t.val := by
  obtain ⟨t, hne⟩ := t
  cases j with
  | text s =>
    cases s with
    | nil => simp [nonempty, fault, Ne.symm hne]
    | cons c rest => simp [nonempty, Subtype.ext_iff]
  | _ => simp [nonempty, fault]

theorem countsAs_of_int_eq_ok {n : Int} (h : int j = .ok n) : CountsAs j n := by
  unfold int at h
  split at h
  · cases h
    exact .int n
  · cases h
    exact .bool _
  · split at h
    · cases h
    · next hwhole =>
      split at h
      · cases h
      · next hlimit =>
        cases h
        exact .real (by simpa using hwhole) (by omega)
  · cases h
  · split at h
    · next hread =>
      cases h
      exact .text hread
    · cases h
    · cases h
  · cases h
  · cases h

/-- An integer is what counts as one. -/
theorem int_eq_ok_iff {n : Int} : int j = .ok n ↔ CountsAs j n := by
  refine ⟨countsAs_of_int_eq_ok, fun h => ?_⟩
  cases h with
  | int n => rfl
  | bool b => rfl
  | real hwhole hlimit =>
    rw [int, hwhole]
    exact if_neg (Nat.not_le.2 hlimit)
  | text h =>
    rw [int, h]

theorem CountsAs.unique {n m : Int} (h : CountsAs j n) (h' : CountsAs j m) : n = m :=
  Except.ok.inj ((int_eq_ok_iff.2 h).symm.trans (int_eq_ok_iff.2 h'))

theorem not_countsAs_null (n : Int) : ¬CountsAs .null n := by
  intro h
  cases h

/-! ## Fields -/

theorem required_eq_ok_iff {a : α} : required fields key read = .ok a ↔
    ∃ j, Json.fieldOf? key.toList fields = some j ∧ read j = .ok a := by
  unfold required
  cases h : Json.fieldOf? key.toList fields with
  | none => simp [under, fault]
  | some j => simp [under_eq_ok_iff]

theorem withDefault_eq_ok_iff {default a : α} : withDefault fields key default read = .ok a ↔
    (Json.fieldOf? key.toList fields = none ∧ a = default) ∨
      ∃ j, Json.fieldOf? key.toList fields = some j ∧ read j = .ok a := by
  unfold withDefault
  cases h : Json.fieldOf? key.toList fields with
  | none => simp [eq_comm]
  | some j => simp [under_eq_ok_iff]

/-- Whether a field that may be missing, which null says too, holds a value that counts as given. -/
def HoldsOptional (fields : List (Text × Json)) (key : String) (counts : Json → α → Prop) :
    Option α → Prop
  | none => Json.fieldOf? key.toList fields = none ∨
    Json.fieldOf? key.toList fields = some .null
  | some a => ∃ j, Json.fieldOf? key.toList fields = some j ∧ counts j a

/-- Fields of one value hold the same. -/
theorem HoldsOptional.unique {counts : Json → α → Prop} {fields' : List (Text × Json)}
    {a? b? : Option α} (hcounts : ∀ j a b, counts j a → counts j b → a = b)
    (hnull : ∀ a, ¬counts .null a)
    (hfield : Json.fieldOf? key.toList fields = Json.fieldOf? key.toList fields')
    (h : HoldsOptional fields key counts a?) (h' : HoldsOptional fields' key counts b?) :
    a? = b? := by
  unfold HoldsOptional at h h'
  rw [← hfield] at h'
  cases a? with
  | none =>
    cases b? with
    | none => rfl
    | some b =>
      obtain ⟨j, hj, hb⟩ := h'
      rw [hj] at h
      rcases h with hnone | hsome
      · cases hnone
      · cases hsome
        exact absurd hb (hnull b)
  | some a =>
    obtain ⟨j, hj, ha⟩ := h
    rw [hj] at h'
    cases b? with
    | none =>
      rcases h' with hnone | hsome
      · cases hnone
      · cases hsome
        exact absurd ha (hnull a)
    | some b =>
      obtain ⟨j', hj', hb⟩ := h'
      cases hj'
      exact congrArg some (hcounts j a b ha hb)

/-- A field that may be missing, for a reader that does not take null itself. -/
theorem withDefault_optional_eq_ok_iff {counts : Json → α → Prop}
    (hread : ∀ j a, read j = .ok a ↔ counts j a) (hnull : ∀ a, ¬counts .null a) {a? : Option α} :
    withDefault fields key none (optional read) = .ok a? ↔
      HoldsOptional fields key counts a? := by
  have hoptional (j : Json) : optional read j = .ok a? ↔
      (a? = none ∧ j = .null) ∨ ∃ a, a? = some a ∧ counts j a := by
    unfold optional
    split
    · simp [eq_comm, hnull]
    · next hne =>
      cases hj : read j with
      | error e => simp [← hread, hj, show j ≠ .null from hne]
      | ok a => simp [← hread, hj, show j ≠ .null from hne, eq_comm]
  rw [withDefault_eq_ok_iff]
  cases a? with
  | none => simp [HoldsOptional, hoptional]
  | some a => simp [HoldsOptional, hoptional]

end Field

end SignedAccess

import SignedAccess.SignedUrl.NameTable
import SignedAccess.Text.Blank
import SignedAccess.Text.Case

/-!
# Headers

A client sends a signed URL with headers.  For signing, each is brought into one form: its name
in lower case, its value without blanks at its ends and without runs of spaces or of tabs, and
the values of one name in one header.

Main definitions:

* `Header.ofEntry?` — the header of an entry `name:value`;
* `Header.gather` — headers by name, the values of one name joined by commas;
* `Header.sanitize` — the headers of a list of entries;
* `Header.insert` — a header added to headers that are in order.

Main statement: `ascending_gather`, the names of gathered headers ascend strictly.
-/

namespace SignedAccess

structure Header where
  name : Text
  value : Text
  deriving DecidableEq, Repr

namespace Header

/-! ## Algorithm -/

def line (h : Header) : Text := h.name ++ ':' :: h.value

def nameOf (line : Text) : Text := Text.before ':' line

/-- A value without blanks at its ends, with runs of spaces and runs of tabs shortened. -/
def tidy (value : Text) : Text := Text.collapse '\t' (Text.collapse ' ' (Text.trim value))

/-- The header of an entry; none for an entry that lacks a colon, a name or a value. -/
def ofEntry? (entry : Text) : Option Header :=
  match Text.cut? ':' (Text.trim entry) with
  | none => none
  | some (name, value) =>
    let h : Header := ⟨Text.lower (Text.trim name), tidy value⟩
    if h.name = [] ∨ h.value = [] then none else some h

def ofValues (entry : Text × List Text) : Header := ⟨entry.1, Text.joined [','] entry.2⟩

/-- Headers by name, the values of one name joined by commas in the order in which they came. -/
def gather (headers : List Header) : List Header :=
  (NameTable.ofPairs (headers.map fun h => (h.name, h.value))).map ofValues

/-- The headers of a list of entries, by name. -/
def sanitize (entries : List Text) : List Header := gather (entries.filterMap ofEntry?)

/-- Adds a header behind those whose names do not come after its own. -/
def insert (h : Header) : List Header → List Header
  | [] => [h]
  | g :: rest => if Text.precedes h.name g.name then h :: g :: rest else g :: insert h rest

def value? (name : Text) (headers : List Header) : Option Text :=
  (headers.find? fun h => h.name = name).map Header.value

/-! ## Lemmas -/

theorem mem_insert {h g : Header} {headers : List Header} :
    g ∈ insert h headers ↔ g = h ∨ g ∈ headers := by
  induction headers with
  | nil => simp [insert]
  | cons x rest ih =>
    simp only [insert]
    split
    · simp
    · simp only [List.mem_cons, ih]
      constructor
      · rintro (rfl | rfl | h)
        · exact Or.inr (Or.inl rfl)
        · exact Or.inl rfl
        · exact Or.inr (Or.inr h)
      · rintro (rfl | rfl | h)
        · exact Or.inr (Or.inl rfl)
        · exact Or.inl rfl
        · exact Or.inr (Or.inr h)

/-- The names of gathered headers ascend strictly. -/
theorem ascending_gather (headers : List Header) :
    (gather headers).Pairwise fun a b => Text.precedes a.name b.name = true := by
  rw [gather, List.pairwise_map]
  exact NameTable.ascending_ofPairs _

end Header

end SignedAccess

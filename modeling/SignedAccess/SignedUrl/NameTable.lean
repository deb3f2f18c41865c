import SignedAccess.Text

/-!
# Tables of named values

Values gathered by name.  Names ascend by code point, each stands once, and its values keep the
order in which they came.

Main definitions:

* `NameTable.add` — a value added under a name;
* `NameTable.ofPairs` — the table of named values in any order;
* `NameTable.pairs` — the named values of a table, by name.

Main statements: `ascending_ofPairs`, names ascend strictly; `valuesOf_ofPairs`, the values of a
name are those that came with it, in order.
-/

namespace SignedAccess

/-- Names with their values. -/
abbrev NameTable := List (Text × List Text)

namespace NameTable

/-! ## Algorithm -/

def add (name value : Text) : NameTable → NameTable
  | [] => [(name, [value])]
  | (n, values) :: rest =>
    if name = n then (n, values ++ [value]) :: rest
    else if Text.precedes name n then (name, [value]) :: (n, values) :: rest
    else (n, values) :: add name value rest

def ofPairs (pairs : List (Text × Text)) : NameTable :=
  pairs.foldl (fun table p => add p.1 p.2 table) []

/-- The named values of a table, by name. -/
def pairs (table : NameTable) : List (Text × Text) :=
  table.flatMap fun entry => entry.2.map fun value => (entry.1, value)

def valuesOf (name : Text) (table : NameTable) : List Text :=
  ((table.find? fun entry => entry.1 = name).map Prod.snd).getD []

def Ascending (table : NameTable) : Prop := table.Pairwise fun a b => Text.precedes a.1 b.1 = true

/-! ## Lemmas -/

theorem mem_add {name value : Text} {table : NameTable} {entry : Text × List Text}
    (h : entry ∈ add name value table) : entry.1 = name ∨ ∃ e ∈ table, e.1 = entry.1 := by
  induction table with
  | nil => simp [add] at h; simp [h]
  | cons e rest ih =>
    obtain ⟨n, values⟩ := e
    simp only [add] at h
    split at h
    · rename_i hn
      simp only [List.mem_cons] at h
      rcases h with rfl | h
      · exact Or.inl hn.symm
      · exact Or.inr ⟨entry, List.mem_cons_of_mem _ h, rfl⟩
    · split at h
      · simp only [List.mem_cons] at h
        rcases h with rfl | rfl | h
        · exact Or.inl rfl
        · exact Or.inr ⟨_, List.mem_cons_self, rfl⟩
        · exact Or.inr ⟨entry, List.mem_cons_of_mem _ h, rfl⟩
      · simp only [List.mem_cons] at h
        rcases h with rfl | h
        · exact Or.inr ⟨_, List.mem_cons_self, rfl⟩
        · rcases ih h with h | ⟨e, he, h⟩
          · exact Or.inl h
          · exact Or.inr ⟨e, List.mem_cons_of_mem _ he, h⟩

theorem ascending_add {name value : Text} {table : NameTable} (h : Ascending table) :
    Ascending (add name value table) := by
  induction table with
  | nil => simp [add, Ascending]
  | cons e rest ih =>
    obtain ⟨n, values⟩ := e
    have hrest : Ascending rest := (List.pairwise_cons.1 h).2
    have hhead := (List.pairwise_cons.1 h).1
    simp only [add]
    split
    · exact List.pairwise_cons.2 ⟨hhead, hrest⟩
    · rename_i hne
      split
      · rename_i hlt
        refine List.pairwise_cons.2 ⟨fun e he => ?_, h⟩
        simp only [List.mem_cons] at he
        rcases he with rfl | he
        · exact hlt
        · exact Text.precedes_trans hlt (hhead e he)
      · rename_i hlt
        refine List.pairwise_cons.2 ⟨fun e he => ?_, ih hrest⟩
        rcases mem_add he with he | ⟨e', he', he⟩
        · exact he ▸ Text.precedes_of_ne hne (by simpa using hlt)
        · exact he ▸ hhead e' he'

theorem ascending_foldl {pairs : List (Text × Text)} {table : NameTable} (h : Ascending table) :
    Ascending (pairs.foldl (fun table p => add p.1 p.2 table) table) := by
  induction pairs generalizing table with
  | nil => exact h
  | cons p rest ih => exact ih (ascending_add h)

/-- The names of a table ascend strictly. -/
theorem ascending_ofPairs (pairs : List (Text × Text)) : Ascending (ofPairs pairs) :=
  ascending_foldl List.Pairwise.nil

theorem valuesOf_eq_nil {name : Text} {table : NameTable} (h : ∀ e ∈ table, e.1 ≠ name) :
    valuesOf name table = [] := by
  have : table.find? (fun entry => decide (entry.1 = name)) = none := by
    simpa [List.find?_eq_none] using h
  simp [valuesOf, this]

theorem valuesOf_add {name value : Text} {table : NameTable} (h : Ascending table) (m : Text) :
    valuesOf m (add name value table) =
      if m = name then valuesOf m table ++ [value] else valuesOf m table := by
  induction table with
  | nil =>
    by_cases hm : m = name
    · simp [add, valuesOf, hm]
    · simp [add, valuesOf, hm, Ne.symm hm]
  | cons e rest ih =>
    obtain ⟨n, values⟩ := e
    have hrest : Ascending rest := (List.pairwise_cons.1 h).2
    have hhead := (List.pairwise_cons.1 h).1
    simp only [add]
    split
    · rename_i hn
      subst hn
      by_cases hm : m = name
      · simp [valuesOf, hm]
      · simp [valuesOf, hm, Ne.symm hm]
    · rename_i hne
      split
      · rename_i hlt
        by_cases hm : m = name
        · subst hm
          have hnone : valuesOf m ((n, values) :: rest) = [] := by
            refine valuesOf_eq_nil fun e he hem => ?_
            simp only [List.mem_cons] at he
            rcases he with rfl | he
            · exact hne hem.symm
            · have hlt' := Text.precedes_trans hlt (hhead e he)
              rw [hem, Text.precedes_irrefl] at hlt'
              exact Bool.false_ne_true hlt'
          rw [hnone]
          simp [valuesOf]
        · simp [valuesOf, hm, Ne.symm hm]
      · have ih' := ih hrest
        by_cases hm : n = m
        · subst hm
          simp [valuesOf, Ne.symm hne]
        · simp only [valuesOf] at ih' ⊢
          simp only [List.find?_cons, hm, decide_false]
          exact ih'

theorem valuesOf_foldl {pairs : List (Text × Text)} {table : NameTable} (h : Ascending table)
    (name : Text) :
    valuesOf name (pairs.foldl (fun table p => add p.1 p.2 table) table) =
      valuesOf name table ++ (pairs.filter fun p => p.1 = name).map Prod.snd := by
  induction pairs generalizing table with
  | nil => simp
  | cons p rest ih =>
    rw [List.foldl_cons, ih (ascending_add h), valuesOf_add h]
    by_cases hp : p.1 = name
    · simp [hp]
    · simp [hp, Ne.symm hp]

/-- The values of a name are those that came with it, in order. -/
theorem valuesOf_ofPairs (pairs : List (Text × Text)) (name : Text) :
    valuesOf name (ofPairs pairs) = (pairs.filter fun p => p.1 = name).map Prod.snd := by
  rw [ofPairs, valuesOf_foldl List.Pairwise.nil]
  simp [valuesOf]

end NameTable

end SignedAccess

import SignedAccess.SignedUrl.NameTable

/-!
# What a table of named values holds

A table made of named values holds each name that came, once, with all its values in order;
written out by name, it gives every name the values that came with it.

    e ∈ ofPairs ps ↔ e.2 = valuesNamed e.1 ps ∧ e.2 ≠ []             (mem_ofPairs)
    valuesNamed name (ofPairs ps).pairs = valuesNamed name ps        (valuesNamed_pairs_ofPairs)
    SortedFrom (ofPairs ps).pairs ps                                 (sortedFrom_pairs_ofPairs)
-/

namespace SignedAccess.NameTable

def valuesNamed (name : Text) (ps : List (Text × Text)) : List Text :=
  (ps.filter fun p => p.1 = name).map Prod.snd

/-! ## Named values -/

theorem valuesNamed_append (name : Text) (ps qs : List (Text × Text)) :
    valuesNamed name (ps ++ qs) = valuesNamed name ps ++ valuesNamed name qs := by
  simp [valuesNamed]

theorem valuesNamed_eq_nil {name : Text} {ps : List (Text × Text)} (h : ∀ p ∈ ps, p.1 ≠ name) :
    valuesNamed name ps = [] := by
  rw [valuesNamed, List.map_eq_nil_iff, List.filter_eq_nil_iff]
  intro p hp
  simpa using h p hp

theorem mem_valuesNamed {name value : Text} {ps : List (Text × Text)} :
    value ∈ valuesNamed name ps ↔ (name, value) ∈ ps := by
  constructor
  · intro h
    obtain ⟨⟨n, v⟩, hp, rfl⟩ := List.mem_map.1 h
    obtain ⟨hp, hn⟩ := List.mem_filter.1 hp
    rw [← show n = name by simpa using hn]
    exact hp
  · intro h
    exact List.mem_map.2 ⟨(name, value), List.mem_filter.2 ⟨h, by simp⟩, rfl⟩

theorem valuesNamed_map (name n : Text) (values : List Text) :
    valuesNamed name (values.map fun value => (n, value)) = if n = name then values else [] := by
  by_cases h : n = name
  · simp [valuesNamed, List.filter_map, Function.comp_def, h]
  · simp [valuesNamed, List.filter_map, Function.comp_def, h]

/-! ## Lists in order -/

section
variable {α : Type} {key : α → Text} {xs ys : List α}

/-- Where keys ascend, each stands once. -/
theorem key_ne_of_ascending (h : xs.Pairwise fun a b => Text.precedes (key a) (key b) = true) :
    xs.Pairwise fun a b => key a ≠ key b := by
  refine h.imp fun {a b} hlt heq => ?_
  rw [heq, Text.precedes_irrefl] at hlt
  cases hlt

/-- Lists whose keys ascend are equal if they have the same members. -/
theorem eq_of_ascending (hxs : xs.Pairwise fun a b => Text.precedes (key a) (key b) = true)
    (hys : ys.Pairwise fun a b => Text.precedes (key a) (key b) = true)
    (h : ∀ x, x ∈ xs ↔ x ∈ ys) : xs = ys := by
  have hnodup {zs : List α} (hzs : zs.Pairwise fun a b => Text.precedes (key a) (key b) = true) :
      zs.Nodup := (key_ne_of_ascending hzs).imp fun hne heq => hne (congrArg key heq)
  have hperm : xs.Perm ys := (List.perm_ext_iff_of_nodup (hnodup hxs) (hnodup hys)).2 h
  -- of two members each would stand before the other, but no key precedes itself
  refine hperm.eq_of_pairwise (fun a b _ _ hab hba => ?_) hxs hys
  have hself := Text.precedes_trans hab hba
  rw [Text.precedes_irrefl] at hself
  cases hself

end

/-! ## Entries of a table -/

theorem valuesOf_cons (name n : Text) (values : List Text) (rest : NameTable) :
    valuesOf name ((n, values) :: rest) = if n = name then values else valuesOf name rest := by
  by_cases h : n = name
  · simp [valuesOf, h]
  · simp [valuesOf, h]

theorem ne_of_ascending_cons {e : Text × List Text} {rest : NameTable}
    (h : Ascending (e :: rest)) : ∀ e' ∈ rest, e'.1 ≠ e.1 :=
  fun e' he' => ((List.pairwise_cons.1 (key_ne_of_ascending h)).1 e' he').symm

/-- An entry of a table gives the values of its name. -/
theorem valuesOf_eq_of_mem {table : NameTable} (h : Ascending table) {e : Text × List Text}
    (he : e ∈ table) : valuesOf e.1 table = e.2 := by
  induction table with
  | nil => cases he
  | cons e' rest ih =>
    obtain ⟨n, values⟩ := e'
    rw [valuesOf_cons]
    rcases List.mem_cons.1 he with rfl | he
    · rw [if_pos rfl]
    · rw [if_neg (ne_of_ascending_cons h e he).symm]
      exact ih (List.pairwise_cons.1 h).2 he

theorem mem_of_valuesOf_ne_nil {name : Text} {table : NameTable} (h : valuesOf name table ≠ []) :
    (name, valuesOf name table) ∈ table := by
  induction table with
  | nil => exact absurd rfl h
  | cons e rest ih =>
    obtain ⟨n, values⟩ := e
    rw [valuesOf_cons] at h ⊢
    by_cases hn : n = name
    · rw [if_pos hn, hn]
      exact List.mem_cons_self
    · rw [if_neg hn] at h ⊢
      exact List.mem_cons_of_mem _ (ih h)

/-- Every entry has a value. -/
theorem values_ne_nil_of_mem_add {name value : Text} {table : NameTable}
    (h : ∀ e ∈ table, e.2 ≠ []) : ∀ e ∈ add name value table, e.2 ≠ [] := by
  induction table with
  | nil =>
    intro e he
    simp only [add, List.mem_singleton] at he
    rw [he]
    exact List.cons_ne_nil _ _
  | cons e' rest ih =>
    obtain ⟨n, values⟩ := e'
    have hrest : ∀ e ∈ rest, e.2 ≠ [] := fun e he => h e (List.mem_cons_of_mem _ he)
    intro e he
    rw [add] at he
    split at he
    · rcases List.mem_cons.1 he with rfl | he
      · exact List.append_ne_nil_of_right_ne_nil _ (List.cons_ne_nil _ _)
      · exact hrest e he
    · split at he
      · rcases List.mem_cons.1 he with rfl | he
        · exact List.cons_ne_nil _ _
        · exact h e he
      · rcases List.mem_cons.1 he with rfl | he
        · exact h _ List.mem_cons_self
        · exact ih hrest e he

theorem values_ne_nil_of_mem_ofPairs (ps : List (Text × Text)) : ∀ e ∈ ofPairs ps, e.2 ≠ [] := by
  suffices hfold : ∀ table : NameTable, (∀ e ∈ table, e.2 ≠ []) →
      ∀ e ∈ ps.foldl (fun table p => add p.1 p.2 table) table, e.2 ≠ [] from
    hfold [] (fun e he => nomatch he)
  induction ps with
  | nil => exact fun table h => h
  | cons p ps ih => exact fun table h => ih _ (values_ne_nil_of_mem_add h)

/-- The entries of a table are the names that came, each with all its values in order. -/
theorem mem_ofPairs {ps : List (Text × Text)} {e : Text × List Text} :
    e ∈ ofPairs ps ↔ e.2 = valuesNamed e.1 ps ∧ e.2 ≠ [] := by
  have hvalues : valuesOf e.1 (ofPairs ps) = valuesNamed e.1 ps := valuesOf_ofPairs ps e.1
  constructor
  · intro he
    have heq := valuesOf_eq_of_mem (ascending_ofPairs ps) he
    exact ⟨by rw [← heq, hvalues], values_ne_nil_of_mem_ofPairs ps e he⟩
  · rintro ⟨heq, hne⟩
    rw [← hvalues] at heq
    have hmem : (e.1, valuesOf e.1 (ofPairs ps)) ∈ ofPairs ps :=
      mem_of_valuesOf_ne_nil (heq ▸ hne)
    rw [← heq] at hmem
    exact hmem

/-- Named values that give every name the same values make one table. -/
theorem ofPairs_eq_of_valuesNamed_eq {ps qs : List (Text × Text)}
    (h : ∀ name, valuesNamed name ps = valuesNamed name qs) : ofPairs ps = ofPairs qs := by
  refine eq_of_ascending (ascending_ofPairs ps) (ascending_ofPairs qs) fun e => ?_
  rw [mem_ofPairs, mem_ofPairs, h]

/-! ## Tables written out -/

theorem valuesNamed_pairs {table : NameTable} (h : Ascending table) (name : Text) :
    valuesNamed name table.pairs = valuesOf name table := by
  induction table with
  | nil => rfl
  | cons e rest ih =>
    obtain ⟨n, values⟩ := e
    have hpairs : pairs ((n, values) :: rest) = values.map (fun v => (n, v)) ++ pairs rest :=
      List.flatMap_cons
    rw [hpairs, valuesNamed_append, valuesNamed_map, ih (List.pairwise_cons.1 h).2, valuesOf_cons]
    by_cases hn : n = name
    · rw [if_pos hn, if_pos hn, valuesOf_eq_nil, List.append_nil]
      intro e he
      rw [← hn]
      exact ne_of_ascending_cons h e he
    · rw [if_neg hn, if_neg hn, List.nil_append]

/-- Written out by name, a table gives each name the values that came with it. -/
theorem valuesNamed_pairs_ofPairs (name : Text) (ps : List (Text × Text)) :
    valuesNamed name (ofPairs ps).pairs = valuesNamed name ps := by
  rw [valuesNamed_pairs (ascending_ofPairs ps)]
  exact valuesOf_ofPairs ps name

/-! ## Sorting by name -/

/-- Whether named values are others sorted by name, the values of one name in the order they had. -/
structure SortedFrom (ps qs : List (Text × Text)) : Prop where
  perm : ps.Perm qs
  values : ∀ name, valuesNamed name ps = valuesNamed name qs
  sorted : ps.Pairwise fun p q => p.1 = q.1 ∨ Text.precedes p.1 q.1 = true

theorem count_valuesNamed (p : Text × Text) (ps : List (Text × Text)) :
    (valuesNamed p.1 ps).count p.2 = ps.count p := by
  induction ps with
  | nil => rfl
  | cons q ps ih =>
    have hcons : valuesNamed p.1 (q :: ps) = valuesNamed p.1 [q] ++ valuesNamed p.1 ps :=
      valuesNamed_append p.1 [q] ps
    have hhead : (valuesNamed p.1 [q]).count p.2 = [q].count p := by
      obtain ⟨name, value⟩ := p
      obtain ⟨n, v⟩ := q
      by_cases hn : n = name
      · by_cases hv : v = value <;> simp [valuesNamed, hn, hv]
      · simp [valuesNamed, hn]
    rw [hcons, List.count_append, hhead, ih, ← List.count_append, List.singleton_append]

/-- Named values that give every name the same values are the same up to their order. -/
theorem perm_of_valuesNamed_eq {ps qs : List (Text × Text)}
    (h : ∀ name, valuesNamed name ps = valuesNamed name qs) : ps.Perm qs := by
  rw [List.perm_iff_count]
  intro p
  rw [← count_valuesNamed, ← count_valuesNamed, h]

theorem sorted_pairs {table : NameTable} (h : Ascending table) :
    table.pairs.Pairwise fun p q => p.1 = q.1 ∨ Text.precedes p.1 q.1 = true := by
  unfold pairs
  rw [List.pairwise_flatMap]
  constructor
  · intro e _
    rw [List.pairwise_map]
    exact List.pairwise_of_forall fun _ _ => Or.inl rfl
  · refine h.imp fun hlt p hp q hq => Or.inr ?_
    obtain ⟨_, -, rfl⟩ := List.mem_map.1 hp
    obtain ⟨_, -, rfl⟩ := List.mem_map.1 hq
    exact hlt

/-- A table written out is what came, sorted by name. -/
theorem sortedFrom_pairs_ofPairs (ps : List (Text × Text)) : SortedFrom (ofPairs ps).pairs ps :=
  have hvalues (name : Text) := valuesNamed_pairs_ofPairs name ps
  { perm := perm_of_valuesNamed_eq hvalues
    values := hvalues
    sorted := sorted_pairs (ascending_ofPairs ps) }

end SignedAccess.NameTable

import SignedAccess.Proofs.SignedUrl.Path

/-!
# Queries of mappings

A mapping gives each of its names a list of values.  Its query is read as its named values, by name,
those of one name in the order that they had; a name without values leaves no trace.  Two mappings
have one query just when they agree on every name that has values.

    IsMapping ps → ofPairs (pairsOf ps) = the entries of byName ps that have values
                                                                     (ofPairs_pairsOf)
    IsMapping ps → IsMapping qs → IsQueryOf (encodeQuery ps) ps ∧
      (encodeQuery ps = encodeQuery qs ↔ Agree ps qs)                (isQueryOf_and_eq_iff_agree)
-/

namespace SignedAccess

/-! ## Order of names -/

/-- Whether one named list of values may stand before another by its name. -/
def NameTable.mayPrecede (p q : Text × List Text) : Bool := !Text.precedes q.1 p.1

namespace NameTable

theorem mayPrecede_iff {p q : Text × List Text} :
    mayPrecede p q = true ↔ p.1 = q.1 ∨ Text.precedes p.1 q.1 = true := by
  unfold mayPrecede
  rw [Bool.not_eq_true']
  constructor
  · intro h
    by_cases heq : p.1 = q.1
    · exact Or.inl heq
    · exact Or.inr (Text.precedes_of_ne (Ne.symm heq) h)
  · rintro (heq | hlt)
    · rw [heq]
      exact Text.precedes_irrefl _
    · -- otherwise each would stand before itself
      refine Bool.eq_false_iff.2 fun hgt => ?_
      have hself := Text.precedes_trans hlt hgt
      rw [Text.precedes_irrefl] at hself
      cases hself

theorem mayPrecede_trans (p q r : Text × List Text) (hpq : mayPrecede p q = true)
    (hqr : mayPrecede q r = true) : mayPrecede p r = true := by
  rw [mayPrecede_iff] at hpq hqr ⊢
  rcases hpq with hpq | hpq
  · rwa [hpq]
  · rcases hqr with hqr | hqr
    · rw [← hqr]
      exact Or.inr hpq
    · exact Or.inr (Text.precedes_trans hpq hqr)

theorem mayPrecede_total (p q : Text × List Text) :
    (mayPrecede p q || mayPrecede q p) = true := by
  rw [Bool.or_eq_true, mayPrecede_iff, mayPrecede_iff]
  by_cases heq : p.1 = q.1
  · exact Or.inl (Or.inl heq)
  · cases hlt : Text.precedes p.1 q.1 with
    | true => exact Or.inl (Or.inr rfl)
    | false => exact Or.inr (Or.inr (Text.precedes_of_ne heq hlt))

end NameTable

namespace SignedUrl

open NameTable (valuesNamed)
open TokenRequest (encodeForm encodeFormValue)

/-! ## Mappings -/

/-- Whether every name has one list of values. -/
def IsMapping (ps : List (Text × List Text)) : Prop := (ps.map Prod.fst).Nodup

def byName (ps : List (Text × List Text)) : List (Text × List Text) :=
  ps.mergeSort NameTable.mayPrecede

/-- Whether mappings agree on every name that has values. -/
def Agree (ps qs : List (Text × List Text)) : Prop :=
  ∀ name values, values ≠ [] → ((name, values) ∈ ps ↔ (name, values) ∈ qs)

structure IsQueryOf (query : Text) (ps : List (Text × List Text)) : Prop where
  /-- Cut at every `&`, each piece at its first `=`, and both halves decoded, it gives the named
  values by name. -/
  read : readQuery? query = some (pairsOf (byName ps))
  form : Percent.IsForm ['-', '.', '_', '~', '&', '='] query
  plus : '+' ∉ query
  /-- It is the form with these values, every plus sign being replaced. -/
  replaced : query = (encodeForm (pairsOf (byName ps))).flatMap escapePlus

variable {ps qs : List (Text × List Text)}

theorem valuesNamed_pairsOf_of_not_mem {name : Text} (h : name ∉ ps.map Prod.fst) :
    valuesNamed name (pairsOf ps) = [] := by
  refine NameTable.valuesNamed_eq_nil fun p hp hname => h ?_
  obtain ⟨entry, hentry, hp⟩ := List.mem_flatMap.1 hp
  obtain ⟨value, -, rfl⟩ := List.mem_map.1 hp
  exact List.mem_map.2 ⟨entry, hentry, hname⟩

/-- In a mapping the values of a name are those of its one list. -/
theorem IsMapping.valuesNamed_pairsOf (hps : IsMapping ps) {p : Text × List Text} (hp : p ∈ ps) :
    valuesNamed p.1 (pairsOf ps) = p.2 := by
  induction ps with
  | nil => cases hp
  | cons q ps ih =>
    have hrest : IsMapping ps := (List.nodup_cons.1 hps).2
    have hnew : q.1 ∉ ps.map Prod.fst := (List.nodup_cons.1 hps).1
    have hpairs : pairsOf (q :: ps) = q.2.map (fun value => (q.1, value)) ++ pairsOf ps :=
      List.flatMap_cons
    rw [hpairs, NameTable.valuesNamed_append, NameTable.valuesNamed_map]
    rcases List.mem_cons.1 hp with rfl | hp
    · rw [if_pos rfl, valuesNamed_pairsOf_of_not_mem hnew, List.append_nil]
    · have hne : q.1 ≠ p.1 := fun heq => hnew (heq ▸ List.mem_map_of_mem hp)
      rw [if_neg hne, List.nil_append, ih hrest hp]

/-- A mapping has a list of values just when these are the values of its name. -/
theorem IsMapping.mem_iff (hps : IsMapping ps) {p : Text × List Text} (hne : p.2 ≠ []) :
    p ∈ ps ↔ p.2 = valuesNamed p.1 (pairsOf ps) := by
  constructor
  · intro hp
    exact (hps.valuesNamed_pairsOf hp).symm
  · intro heq
    have hname : p.1 ∈ ps.map Prod.fst := by
      by_contra hmiss
      exact hne (heq.trans (valuesNamed_pairsOf_of_not_mem hmiss))
    obtain ⟨q, hq, hpq⟩ := List.mem_map.1 hname
    have hvalues := hps.valuesNamed_pairsOf hq
    rw [hpq, ← heq] at hvalues
    rwa [Prod.ext hpq.symm hvalues]

/-- The names of a mapping ascend once it is sorted. -/
theorem IsMapping.ascending_byName (hps : IsMapping ps) : NameTable.Ascending (byName ps) := by
  have hperm : (byName ps).Perm ps := List.mergeSort_perm ps _
  have hne : (byName ps).Pairwise fun p q => p.1 ≠ q.1 :=
    List.pairwise_map.1 ((hperm.map Prod.fst).nodup_iff.2 hps)
  have hsorted : (byName ps).Pairwise fun p q => NameTable.mayPrecede p q = true :=
    List.pairwise_mergeSort NameTable.mayPrecede_trans NameTable.mayPrecede_total ps
  refine hsorted.imp₂ (fun p q hle hne => ?_) hne
  exact (NameTable.mayPrecede_iff.1 hle).resolve_left hne

/-- The table of a mapping consists of its entries by name, but for those without values. -/
theorem IsMapping.ofPairs_pairsOf (hps : IsMapping ps) :
    NameTable.ofPairs (pairsOf ps) = (byName ps).filter fun p => p.2 ≠ [] := by
  refine NameTable.eq_of_ascending (NameTable.ascending_ofPairs _)
    (List.Pairwise.filter _ hps.ascending_byName) fun p => ?_
  have hmem : p ∈ byName ps ↔ p ∈ ps := (List.mergeSort_perm ps _).mem_iff
  rw [NameTable.mem_ofPairs, List.mem_filter, hmem, decide_eq_true_eq]
  constructor
  · rintro ⟨heq, hne⟩
    exact ⟨(hps.mem_iff hne).2 heq, hne⟩
  · rintro ⟨hp, hne⟩
    exact ⟨(hps.mem_iff hne).1 hp, hne⟩

/-- Names without values leave no trace. -/
theorem pairsOf_filter (ps : List (Text × List Text)) :
    pairsOf (ps.filter fun p => p.2 ≠ []) = pairsOf ps := by
  induction ps with
  | nil => rfl
  | cons p ps ih =>
    by_cases hnil : p.2 = []
    · rw [List.filter_cons_of_neg (by simp [hnil]), ih]
      simp [pairsOf, hnil]
    · rw [List.filter_cons_of_pos (by simp [hnil])]
      unfold pairsOf at ih ⊢
      rw [List.flatMap_cons, List.flatMap_cons, ih]

theorem IsMapping.encodeQuery_eq (hps : IsMapping ps) :
    encodeQuery ps = encodePairs (pairsOf (byName ps)) := by
  have hpairs : (NameTable.ofPairs (pairsOf ps)).pairs = pairsOf (byName ps) := by
    rw [hps.ofPairs_pairsOf]
    exact pairsOf_filter _
  unfold encodeQuery
  rw [hpairs]

/-! ## Form -/

theorem isForm_joined {marks : List Char} {c : Char} (hc : c ∈ marks) {parts : List Text}
    (h : ∀ part ∈ parts, Percent.IsForm marks part) :
    Percent.IsForm marks (Text.joined [c] parts) := by
  induction parts with
  | nil => exact .nil
  | cons part parts ih =>
    have hpart := h part List.mem_cons_self
    by_cases hlast : parts = []
    · rw [hlast]
      simpa [Text.joined] using hpart
    · rw [Text.joined_cons _ _ hlast]
      exact hpart.append (.mark (Or.inr hc) (ih fun part hp => h part (List.mem_cons_of_mem _ hp)))

/-- Named values in a query consist of marks that a query may hold and of escapes. -/
theorem isForm_encodePairs (pairs : List (Text × Text)) :
    Percent.IsForm ['-', '.', '_', '~', '&', '='] (encodePairs pairs) := by
  have hpart (t : Text) : Percent.IsForm ['-', '.', '_', '~', '&', '='] (encodePart t) := by
    refine Percent.isForm_encode (fun c hc => ?_) t
    simp only [Percent.isUnreserved, Bool.or_eq_true, decide_eq_true_eq] at hc
    rcases hc with (((hc | hc) | hc) | hc) | hc
    · exact Or.inl hc
    · simp [hc]
    · simp [hc]
    · simp [hc]
    · simp [hc]
  refine isForm_joined (by decide) fun piece hpiece => ?_
  obtain ⟨p, -, rfl⟩ := List.mem_map.1 hpiece
  exact (hpart p.1).append (.mark (Or.inr (by decide)) (hpart p.2))

/-- Named values in a query are a form in which the plus signs were replaced. -/
theorem flatMap_escapePlus_encodeForm (pairs : List (Text × Text)) :
    (encodeForm pairs).flatMap escapePlus = encodePairs pairs := by
  have hpair (p : Text × Text) :
      (encodeFormValue p.1 ++ '=' :: encodeFormValue p.2).flatMap escapePlus = encodePair p := by
    rw [List.flatMap_append, List.flatMap_cons, flatMap_escapePlus_encodeFormValue,
      flatMap_escapePlus_encodeFormValue]
    rfl
  unfold encodeForm encodePairs
  rw [Text.flatMap_joined rfl, List.map_map]
  exact congrArg _ (List.map_congr_left fun p _ => hpair p)

/-! ## Queries -/

theorem IsMapping.isQueryOf_encodeQuery (hps : IsMapping ps) : IsQueryOf (encodeQuery ps) ps := by
  rw [hps.encodeQuery_eq]
  constructor
  · exact readQuery?_encodePairs _
  · exact isForm_encodePairs _
  · exact not_mem_encodePairs rfl (by decide) (by decide) (by decide) _
  · exact (flatMap_escapePlus_encodeForm _).symm

/-- Mappings agree just when they give every name the same values. -/
theorem agree_iff_valuesNamed_eq (hps : IsMapping ps) (hqs : IsMapping qs) :
    Agree ps qs ↔ ∀ name, valuesNamed name (pairsOf ps) = valuesNamed name (pairsOf qs) := by
  constructor
  · intro h name
    by_cases hnil : valuesNamed name (pairsOf ps) = []
    · by_contra hne
      rw [hnil] at hne
      have hmem := (hqs.mem_iff (p := (name, _)) (Ne.symm hne)).2 rfl
      have hother := (hps.mem_iff (Ne.symm hne)).1 ((h name _ (Ne.symm hne)).2 hmem)
      exact hne (hnil.symm.trans hother.symm)
    · have hmem := (hps.mem_iff (p := (name, _)) hnil).2 rfl
      exact (hqs.mem_iff hnil).1 ((h name _ hnil).1 hmem)
  · intro h name values hne
    rw [hps.mem_iff hne, hqs.mem_iff hne, h]

/-- The query of a mapping is read as its named values by name, and tells apart all mappings but
those that agree on every name with values. -/
theorem isQueryOf_and_eq_iff_agree (hps : IsMapping ps) (hqs : IsMapping qs) :
    IsQueryOf (encodeQuery ps) ps ∧ (encodeQuery ps = encodeQuery qs ↔ Agree ps qs) := by
  refine ⟨hps.isQueryOf_encodeQuery, ?_⟩
  rw [agree_iff_valuesNamed_eq hps hqs]
  constructor
  · intro h name
    exact valuesNamed_eq_of_encodeQuery_eq h name
  · intro h
    unfold encodeQuery
    rw [NameTable.ofPairs_eq_of_valuesNamed_eq h]

/-- Names and values made of separators, an empty value and a name without values. -/
theorem isQueryOf_and_eq_iff_agree_separators :
    let ps := [("b=".toList, ["2".toList, "1 +".toList]), ("c".toList, []), ("a&".toList, [[]])]
    let qs := [("a&".toList, [[]]), ("b=".toList, ["2".toList, "1 +".toList])]
    IsMapping ps ∧ IsMapping qs ∧ encodeQuery ps = "a%26=&b%3D=2&b%3D=1%20%2B".toList ∧
      pairsOf (byName ps) = [("a&".toList, []), ("b=".toList, "2".toList),
        ("b=".toList, "1 +".toList)] ∧
      encodeQuery ps = encodeQuery qs ∧ Agree ps qs := by
  intro ps qs
  have hps : IsMapping ps := by unfold IsMapping; decide
  have hqs : IsMapping qs := by unfold IsMapping; decide
  obtain ⟨hquery, heq⟩ := isQueryOf_and_eq_iff_agree hps hqs
  have htext : encodeQuery ps = "a%26=&b%3D=2&b%3D=1%20%2B".toList := by decide +kernel
  have hsame : encodeQuery ps = encodeQuery qs := by decide +kernel
  have hread : readQuery? (encodeQuery ps) = some [("a&".toList, []), ("b=".toList, "2".toList),
      ("b=".toList, "1 +".toList)] := by decide +kernel
  exact ⟨hps, hqs, htext, Option.some.inj (hquery.read.symm.trans hread), hsame, heq.1 hsame⟩

end SignedUrl

end SignedAccess

import SignedAccess.Proofs.SignedUrl.HeaderList
import SignedAccess.Proofs.Text.Runs

/-!
# Spellings of header entries

One header is given by many entries: the case of ASCII letters in its name, blanks around the entry,
its name or its value, and the length of a run of spaces or of tabs within the value do not count.
Entries without a colon, a name or a value give no header, and entries of different names may stand
in any order.

    Respelled e e' → ofEntry? e' = ofEntry? e                        (ofEntry?_respelled)
    Restated es es' → sanitize es' = sanitize es                     (sanitize_restated)
-/

namespace SignedAccess

open Text (AllBlank)

/-- Whether elements are others in another order, those of one name in the order they had. -/
structure Reordered {α : Type} (name? : α → Option Text) (xs ys : List α) : Prop where
  perm : xs.Perm ys
  kept : ∀ name, xs.filter (fun x => name? x = some name) = ys.filter (fun x => name? x = some name)

namespace Header

open NameTable (valuesNamed)

/-! ## Spellings -/

/-- Spellings of one entry: the second differs from the first in a way that does not count. -/
inductive Respelled : Text → Text → Prop
  /-- The case of ASCII letters in the name, which is what stands before the first colon. -/
  | letterCase {name name' : Text} (value : Text) (hcolon : ':' ∉ name)
      (h : name'.map Char.toLower = name.map Char.toLower) :
      Respelled (name ++ ':' :: value) (name' ++ ':' :: value)
  /-- Blanks around the entry. -/
  | around {before after : Text} (entry : Text) (hbefore : AllBlank before)
      (hafter : AllBlank after) : Respelled entry (before ++ entry ++ after)
  /-- Blanks around its name. -/
  | aroundName {before name after : Text} (value : Text) (hcolon : ':' ∉ name)
      (hbefore : AllBlank before) (hafter : AllBlank after) :
      Respelled (name ++ ':' :: value) (before ++ name ++ after ++ ':' :: value)
  /-- Blanks around its value. -/
  | aroundValue {name before after : Text} (value : Text) (hcolon : ':' ∉ name)
      (hbefore : AllBlank before) (hafter : AllBlank after) :
      Respelled (name ++ ':' :: value) (name ++ ':' :: (before ++ value ++ after))
  /-- A run of spaces or of tabs within its value that is longer. -/
  | longerRun {name : Text} {c : Char} (front back : Text) (hcolon : ':' ∉ name)
      (hc : c = ' ' ∨ c = '\t') :
      Respelled (name ++ ':' :: (front ++ c :: back)) (name ++ ':' :: (front ++ c :: c :: back))

/-- Whether an entry gives no header: it has no colon, or nothing but blanks for a name or for a
value. -/
def IsDropped (entry : Text) : Prop :=
  ':' ∉ entry ∨ ∃ name value, entry = name ++ ':' :: value ∧ ':' ∉ name ∧
    (AllBlank name ∨ AllBlank value)

/-- The name of an entry in lower case; none if it has no colon. -/
def entryName? (entry : Text) : Option Text :=
  (Text.cut? ':' entry).map fun p => Text.lower (Text.trim p.1)

/-- Lists of entries for the same headers: the second comes from the first by one change. -/
inductive Restated : List Text → List Text → Prop
  /-- An entry is spelled in another way. -/
  | respelled {entry entry' : Text} (before after : List Text) (h : Respelled entry entry') :
      Restated (before ++ entry :: after) (before ++ entry' :: after)
  /-- The entries are reordered, those of one name keeping their order. -/
  | reordered {entries entries' : List Text} (h : Reordered entryName? entries entries') :
      Restated entries entries'
  /-- An entry that gives no header is put in. -/
  | inserted {entry : Text} (before after : List Text) (h : IsDropped entry) :
      Restated (before ++ after) (before ++ entry :: after)

/-! ## Values -/

theorem tidy_around {before after : Text} (hbefore : AllBlank before) (hafter : AllBlank after)
    (value : Text) : tidy (before ++ value ++ after) = tidy value := by
  unfold tidy
  rw [Text.trim_around hbefore hafter]

theorem tidy_of_allBlank {value : Text} (h : AllBlank value) : tidy value = [] := by
  unfold tidy
  rw [Text.trim_of_allBlank h]
  rfl

theorem collapse_longerRun {c : Char} (hc : c = ' ' ∨ c = '\t') (a b : Text) :
    Text.collapse '\t' (Text.collapse ' ' (a ++ c :: c :: b)) =
      Text.collapse '\t' (Text.collapse ' ' (a ++ c :: b)) := by
  rcases hc with rfl | rfl
  · rw [Text.collapse_append_cons_cons]
  · have htab : '\t' ≠ ' ' := by decide
    rw [Text.collapse_append_cons htab, Text.collapse_append_cons htab,
      Text.collapse_cons_of_ne htab, Text.collapse_append_cons_cons]

/-- A value does not depend on how long its runs of spaces and of tabs are. -/
theorem tidy_longerRun {c : Char} (hc : c = ' ' ∨ c = '\t') (front back : Text) :
    tidy (front ++ c :: c :: back) = tidy (front ++ c :: back) := by
  have hblank : Text.isBlank c = true := by rcases hc with rfl | rfl <;> decide
  have hone : AllBlank [c] := fun x hx => List.mem_singleton.1 hx ▸ hblank
  unfold tidy
  -- a run at an end of the value is cut off, whatever its length
  by_cases hfront : AllBlank front
  · have hstart : AllBlank (front ++ [c]) := List.forall_mem_append.2 ⟨hfront, hone⟩
    have hrun : front ++ c :: c :: back = front ++ [c] ++ ([c] ++ back) := by simp
    have hsingle : front ++ c :: back = front ++ ([c] ++ back) := by simp
    rw [hrun, hsingle, Text.trim_append_left hstart, Text.trim_append_left hfront]
  · by_cases hback : AllBlank back
    · have hend : AllBlank ([c] ++ back) := List.forall_mem_append.2 ⟨hone, hback⟩
      have hrun : front ++ c :: c :: back = front ++ ([c] ++ ([c] ++ back)) := by simp
      have htwo : AllBlank ([c] ++ ([c] ++ back)) := List.forall_mem_append.2 ⟨hone, hend⟩
      have hsingle : front ++ c :: back = front ++ ([c] ++ back) := by simp
      rw [hrun, hsingle, Text.trim_append_right htwo, Text.trim_append_right hend]
    · have hrun := Text.trim_append_append hfront hback [c, c]
      have hsingle := Text.trim_append_append hfront hback [c]
      simp only [List.cons_append, List.nil_append] at hrun hsingle
      rw [hrun, hsingle, collapse_longerRun hc]

/-! ## Entries -/

def ofParts? (name value : Text) : Option Header :=
  if Text.lower (Text.trim name) = [] ∨ tidy value = [] then none
  else some ⟨Text.lower (Text.trim name), tidy value⟩

theorem ofParts?_eq_some_iff {name value : Text} {h : Header} : ofParts? name value = some h ↔
    Text.lower (Text.trim name) ≠ [] ∧ tidy value ≠ [] ∧
      h = ⟨Text.lower (Text.trim name), tidy value⟩ := by
  unfold ofParts?
  by_cases hname : Text.lower (Text.trim name) = []
  · simp [hname]
  · by_cases hvalue : tidy value = []
    · simp [hvalue]
    · simp [hname, hvalue, eq_comm]

/-- The header of an entry is that of what stands before and after its first colon. -/
theorem ofEntry?_append_cons {name : Text} (hcolon : ':' ∉ name) (value : Text) :
    ofEntry? (name ++ ':' :: value) = ofParts? name value := by
  have htrim := Text.trim_append_cons (c := ':') (by decide) name value
  have hstart : ':' ∉ name.dropWhile Text.isBlank :=
    fun h => hcolon ((List.dropWhile_sublist _).subset h)
  have hcut := (Text.cut?_eq_some_iff _ _ _ _).2 ⟨htrim, hstart⟩
  unfold ofEntry? ofParts?
  rw [hcut]
  simp only [tidy, Text.trim_dropWhile, Text.trim_trimEnd]
  rfl

theorem ofEntry?_of_not_mem {entry : Text} (h : ':' ∉ entry) : ofEntry? entry = none := by
  have hcut : Text.cut? ':' (Text.trim entry) = none :=
    (Text.cut?_eq_none_iff _ _).2 fun hmem => h (Text.mem_of_mem_trim hmem)
  unfold ofEntry?
  rw [hcut]

/-- An entry may be cut before it is trimmed. -/
theorem ofEntry?_eq_some_iff {entry : Text} {h : Header} : ofEntry? entry = some h ↔
    ∃ name value, Text.cut? ':' entry = some (name, value) ∧ ofParts? name value = some h := by
  cases hcut : Text.cut? ':' entry with
  | none => simp [ofEntry?_of_not_mem ((Text.cut?_eq_none_iff _ _).1 hcut)]
  | some p =>
    obtain ⟨rfl, hcolon⟩ := (Text.cut?_eq_some_iff _ _ p.1 p.2).1 hcut
    simp [ofEntry?_append_cons hcolon, Prod.ext_iff]

theorem ofEntry?_around {before after : Text} (hbefore : AllBlank before) (hafter : AllBlank after)
    (entry : Text) : ofEntry? (before ++ entry ++ after) = ofEntry? entry := by
  unfold ofEntry?
  rw [Text.trim_around hbefore hafter]

theorem colon_not_mem_of_allBlank {t : Text} (h : AllBlank t) : ':' ∉ t := by
  intro hmem
  exact absurd (h ':' hmem) (by decide)

theorem colon_mem_map_toLower_iff (t : Text) : ':' ∈ t.map Char.toLower ↔ ':' ∈ t := by
  have hcolon (c : Char) : c.toLower = ':' ↔ c = ':' :=
    eq_iff_iff.1 (Text.eq_of_ascii_eq (· = ':') (by simp only [eq_iff_iff]; decide +kernel) c)
  simp [hcolon]

/-- An entry in another spelling gives the same header. -/
theorem ofEntry?_respelled {entry entry' : Text} (h : Respelled entry entry') :
    ofEntry? entry' = ofEntry? entry := by
  cases h with
  | @letterCase name name' value hcolon hcase =>
    have hcolon' : ':' ∉ name' := by rwa [← colon_mem_map_toLower_iff, hcase,
      colon_mem_map_toLower_iff]
    have hname : Text.lower (Text.trim name') = Text.lower (Text.trim name) := by
      refine Text.lower_eq_of_map_toLower_eq ?_
      rw [← Text.trim_map_toLower, hcase, Text.trim_map_toLower]
    rw [ofEntry?_append_cons hcolon', ofEntry?_append_cons hcolon, ofParts?, ofParts?, hname]
  | around entry hbefore hafter => exact ofEntry?_around hbefore hafter entry
  | @aroundName before name after value hcolon hbefore hafter =>
    have hcolon' : ':' ∉ before ++ name ++ after := by
      simp only [List.mem_append, not_or]
      exact ⟨⟨colon_not_mem_of_allBlank hbefore, hcolon⟩, colon_not_mem_of_allBlank hafter⟩
    rw [ofEntry?_append_cons hcolon', ofEntry?_append_cons hcolon, ofParts?, ofParts?,
      Text.trim_around hbefore hafter]
  | aroundValue value hcolon hbefore hafter =>
    rw [ofEntry?_append_cons hcolon, ofEntry?_append_cons hcolon, ofParts?, ofParts?,
      tidy_around hbefore hafter]
  | longerRun front back hcolon hc =>
    rw [ofEntry?_append_cons hcolon, ofEntry?_append_cons hcolon, ofParts?, ofParts?,
      tidy_longerRun hc]

theorem ofEntry?_of_isDropped {entry : Text} (h : IsDropped entry) : ofEntry? entry = none := by
  rcases h with hno | ⟨name, value, rfl, hcolon, hname | hvalue⟩
  · exact ofEntry?_of_not_mem hno
  · rw [ofEntry?_append_cons hcolon, ofParts?, Text.trim_of_allBlank hname]
    exact if_pos (Or.inl rfl)
  · rw [ofEntry?_append_cons hcolon, ofParts?, tidy_of_allBlank hvalue]
    exact if_pos (Or.inr rfl)

theorem entryName?_of_ofEntry? {entry : Text} {h : Header} (hentry : ofEntry? entry = some h) :
    entryName? entry = some h.name := by
  obtain ⟨name, value, hcut, hparts⟩ := ofEntry?_eq_some_iff.1 hentry
  obtain ⟨-, -, rfl⟩ := ofParts?_eq_some_iff.1 hparts
  unfold entryName?
  rw [hcut]
  rfl

/-! ## Lists of entries -/

theorem namedValues_append (es es' : List Text) :
    namedValues (es ++ es') = namedValues es ++ namedValues es' := by
  unfold namedValues
  rw [List.filterMap_append, List.map_append]

/-- The values of a name in the first entry and in those behind it. -/
theorem valuesNamed_namedValues_cons (name entry : Text) (es : List Text) :
    valuesNamed name (namedValues (entry :: es)) =
      valuesNamed name (namedValues [entry]) ++ valuesNamed name (namedValues es) := by
  rw [← NameTable.valuesNamed_append, ← namedValues_append, List.singleton_append]

/-- The values of a name come from the entries of that name. -/
theorem valuesNamed_filter (name : Text) (entries : List Text) :
    valuesNamed name (namedValues (entries.filter fun e => entryName? e = some name)) =
      valuesNamed name (namedValues entries) := by
  induction entries with
  | nil => rfl
  | cons entry entries ih =>
    by_cases hname : entryName? entry = some name
    · rw [List.filter_cons_of_pos (by simpa using hname), valuesNamed_namedValues_cons, ih,
        ← valuesNamed_namedValues_cons]
    · have hnone : valuesNamed name (namedValues [entry]) = [] := by
        refine NameTable.valuesNamed_eq_nil fun p hp heq => hname ?_
        obtain ⟨entry', hentry, hsome⟩ := mem_namedValues.1 hp
        rw [← List.mem_singleton.1 hentry, entryName?_of_ofEntry? hsome, heq]
      rw [List.filter_cons_of_neg (by simpa using hname), ih, valuesNamed_namedValues_cons, hnone,
        List.nil_append]

theorem sanitize_eq_of_valuesNamed_eq {es es' : List Text}
    (h : ∀ name, valuesNamed name (namedValues es) = valuesNamed name (namedValues es')) :
    sanitize es = sanitize es' := by
  show (NameTable.ofPairs (namedValues es)).map ofValues =
    (NameTable.ofPairs (namedValues es')).map ofValues
  rw [NameTable.ofPairs_eq_of_valuesNamed_eq h]

theorem sanitize_reordered {es es' : List Text} (h : Reordered entryName? es es') :
    sanitize es' = sanitize es := by
  refine sanitize_eq_of_valuesNamed_eq fun name => ?_
  rw [← valuesNamed_filter, ← valuesNamed_filter name es, h.kept]

/-- Entries that are stated in another way give the same headers. -/
theorem sanitize_restated {es es' : List Text} (h : Restated es es') :
    sanitize es' = sanitize es := by
  cases h with
  | respelled before after h =>
    unfold sanitize
    rw [List.filterMap_append, List.filterMap_append, List.filterMap_cons, List.filterMap_cons,
      ofEntry?_respelled h]
  | reordered h => exact sanitize_reordered h
  | inserted before after h =>
    unfold sanitize
    rw [List.filterMap_append, List.filterMap_append,
      List.filterMap_cons_none (ofEntry?_of_isDropped h)]

end Header

end SignedAccess

import SignedAccess.Proofs.SignedUrl.HeaderOrder
import SignedAccess.Proofs.SignedUrl.HeaderSpelling
import SignedAccess.Proofs.Text.LowerForm

/-!
# The canonical form of headers

Headers in canonical form ascend by name; names are trimmed and in lower case, values are trimmed
and have no two spaces and no two tabs side by side.  Each entry is brought into form alone.  A
comma between two values brings no runs together and leaves no blank at an end, so that headers are
read back from their lines, and values may be joined in one step or in several.

    (canonical entries).filterMap ofEntry? = sanitize entries        (filterMap_ofEntry?_canonical)
    canonical (canonical xs ++ canonical ys) = canonical (xs ++ ys), and canonical xs has the form
                                                                     (canonical_absorbs)
-/

namespace SignedAccess

namespace Header

open Text (AllBlank NoRun)
open NameTable (valuesNamed)

/-! ## Values -/

/-- Whether a value has the form in which it is signed. -/
structure IsTidy (value : Text) : Prop where
  nonempty : value ≠ []
  trimmed : Text.trim value = value
  spaces : NoRun ' ' value
  tabs : NoRun '\t' value

theorem IsTidy.tidy_eq {value : Text} (h : IsTidy value) : tidy value = value := by
  unfold tidy
  rw [h.trimmed, Text.collapse_eq_self_iff.2 h.spaces, Text.collapse_eq_self_iff.2 h.tabs]

theorem head?_tidy (value : Text) : (tidy value).head? = (Text.trim value).head? := by
  unfold tidy
  rw [Text.head?_collapse, Text.head?_collapse]

theorem getLast?_tidy (value : Text) : (tidy value).getLast? = (Text.trim value).getLast? := by
  unfold tidy
  rw [Text.getLast?_collapse, Text.getLast?_collapse]

theorem tidy_eq_nil_iff {value : Text} : tidy value = [] ↔ AllBlank value := by
  rw [← List.head?_eq_none_iff, head?_tidy, List.head?_eq_none_iff, Text.trim_eq_nil_iff]

/-- Shortening keeps the first and the last character, so what is trimmed stays trimmed. -/
theorem isTidy_tidy {value : Text} (h : ¬AllBlank value) : IsTidy (tidy value) where
  nonempty := fun hnil => h (tidy_eq_nil_iff.1 hnil)
  trimmed := by
    rw [Text.trim_eq_self_iff, head?_tidy, getLast?_tidy, ← Text.trim_eq_self_iff]
    exact Text.trim_trim value
  spaces := Text.isChain_collapse '\t' (Text.noRun_collapse ' ' _)
  tabs := Text.noRun_collapse '\t' _

/-- A comma separates the runs of two values and ends neither of them in a blank. -/
theorem IsTidy.append_comma {v w : Text} (hv : IsTidy v) (hw : IsTidy w) :
    IsTidy (v ++ ',' :: w) where
  nonempty := List.append_ne_nil_of_left_ne_nil hv.nonempty _
  trimmed := by
    have hstart := (Text.trim_eq_self_iff_ends.1 hv.trimmed).1
    have hend := (Text.trim_eq_self_iff_ends.1 hw.trimmed).2
    rw [Text.trim_append_cons (by decide), hstart, hend]
  spaces := by
    rw [← Text.collapse_eq_self_iff, Text.collapse_append_cons (by decide),
      Text.collapse_eq_self_iff.2 hv.spaces, Text.collapse_eq_self_iff.2 hw.spaces]
  tabs := by
    rw [← Text.collapse_eq_self_iff, Text.collapse_append_cons (by decide),
      Text.collapse_eq_self_iff.2 hv.tabs, Text.collapse_eq_self_iff.2 hw.tabs]

theorem isTidy_joined {values : List Text} (hne : values ≠ []) (h : ∀ v ∈ values, IsTidy v) :
    IsTidy (Text.joined [','] values) := by
  induction values with
  | nil => exact absurd rfl hne
  | cons v rest ih =>
    have hv := h v List.mem_cons_self
    by_cases hrest : rest = []
    · rwa [hrest, Text.joined, List.intercalate_singleton]
    · rw [Text.joined_cons _ _ hrest]
      exact hv.append_comma (ih hrest fun w hw => h w (List.mem_cons_of_mem _ hw))

/-! ## Headers -/

/-- Whether a name has the form in which it is signed. -/
structure IsName (name : Text) : Prop where
  nonempty : name ≠ []
  trimmed : Text.trim name = name
  lower : Text.lower name = name
  noColon : ':' ∉ name

/-- The header with its value in the form in which it is signed; none if it is blank. -/
def tidied? (h : Header) : Option Header :=
  if AllBlank h.value then none else some ⟨h.name, tidy h.value⟩

theorem tidied?_of_isTidy {h : Header} (hvalue : IsTidy h.value) : tidied? h = some h := by
  have hne := hvalue.nonempty
  rw [← hvalue.tidy_eq, Ne, tidy_eq_nil_iff] at hne
  rw [tidied?, if_neg hne, hvalue.tidy_eq]

theorem tidied?_eq_some_iff {g h : Header} :
    tidied? g = some h ↔ ¬AllBlank g.value ∧ h = ⟨g.name, tidy g.value⟩ := by
  unfold tidied?
  by_cases hblank : AllBlank g.value
  · simp [hblank]
  · simp [hblank, eq_comm]

/-- Whether a header has the form in which it is signed. -/
structure InForm (h : Header) : Prop where
  name : IsName h.name
  value : IsTidy h.value

/-- An entry gives a header in form. -/
theorem inForm_of_entry {entry : Text} {h : Header} (hentry : ofEntry? entry = some h) :
    InForm h := by
  have hcolon := colon_not_mem_name_of_ofEntry? hentry
  obtain ⟨name, value, -, hparts⟩ := ofEntry?_eq_some_iff.1 hentry
  obtain ⟨hname, hvalue, rfl⟩ := ofParts?_eq_some_iff.1 hparts
  have htrimmed := Text.trim_lower (Text.trim_trim name)
  exact ⟨⟨hname, htrimmed, Text.lower_lower _, hcolon⟩,
    isTidy_tidy fun hblank => hvalue (tidy_eq_nil_iff.2 hblank)⟩

/-- A line under such a name is read as its header, with the value brought into form. -/
theorem ofEntry?_line {h : Header} (hname : IsName h.name) : ofEntry? h.line = tidied? h := by
  unfold line
  rw [ofEntry?_append_cons hname.noColon, ofParts?, hname.trimmed, hname.lower]
  unfold tidied?
  simp only [hname.nonempty, false_or, tidy_eq_nil_iff]

theorem filterMap_ofEntry?_map_line {headers : List Header}
    (hname : ∀ h ∈ headers, IsName h.name) :
    (headers.map line).filterMap ofEntry? = headers.filterMap tidied? := by
  rw [List.filterMap_map]
  exact List.filterMap_congr fun h hh => ofEntry?_line (hname h hh)

/-! ## Merging -/

/-- Values in one, joined by commas; none if there are none. -/
def merged (values : List Text) : List Text :=
  if values = [] then [] else [Text.joined [','] values]

theorem mem_merged {v : Text} {values : List Text} :
    v ∈ merged values ↔ values ≠ [] ∧ v = Text.joined [','] values := by
  unfold merged
  by_cases hne : values = []
  · simp [hne]
  · simp [hne]

/-- Values may be merged in two steps. -/
theorem merged_append_merged (vs ws : List Text) :
    merged (merged vs ++ merged ws) = merged (vs ++ ws) := by
  have hone (v : Text) : Text.joined [','] [v] = v := List.intercalate_singleton
  by_cases hvs : vs = []
  · by_cases hws : ws = []
    · simp [merged, hvs, hws]
    · simp [merged, hvs, hws, hone]
  · by_cases hws : ws = []
    · simp [merged, hvs, hws, hone]
    · have htwo (v w : Text) : Text.joined [','] [v, w] = v ++ ([','] ++ w) := by
        rw [Text.joined_cons _ _ (List.cons_ne_nil _ _), hone]
      simp [merged, hvs, hws, htwo, Text.joined_append [','] hvs hws]

theorem valuesNamed_map_header (name : Text) (headers : List Header) :
    valuesNamed name (headers.map fun h => (h.name, h.value)) =
      (headers.filter fun h => h.name = name).map value := by
  simp [valuesNamed, List.filter_map, Function.comp_def]

theorem filter_sanitize (name : Text) (entries : List Text) :
    (sanitize entries).filter (fun h => h.name = name) =
      (merged (valuesNamed name (namedValues entries))).map (Header.mk name) := by
  by_cases hne : valuesNamed name (namedValues entries) = []
  · rw [hne, merged, if_pos rfl, List.map_nil, List.filter_eq_nil_iff]
    intro h hh hname
    rw [← of_decide_eq_true hname] at hne
    exact (mem_sanitize.1 hh).1 hne
  · have hmem : (⟨name, Text.joined [','] (valuesNamed name (namedValues entries))⟩ : Header) ∈
        sanitize entries := mem_sanitize.2 ⟨hne, rfl⟩
    rw [merged, if_neg hne, List.map_singleton]
    exact filter_name_eq_of_mem (Ascending.name_ne (ascending_gather _)) hmem

/-- Entries whose values come to the same under every name give the same headers. -/
theorem sanitize_eq_of_merged_eq {es es' : List Text}
    (h : ∀ name, merged (valuesNamed name (namedValues es)) =
      merged (valuesNamed name (namedValues es'))) : sanitize es = sanitize es' := by
  refine NameTable.eq_of_ascending (ascending_gather _) (ascending_gather _) fun g => ?_
  rw [mem_sanitize, mem_sanitize, ← mem_merged, ← mem_merged, h]

/-! ## Canonical lists -/

theorem inForm_of_mem_sanitize {entries : List Text} {h : Header} (hh : h ∈ sanitize entries) :
    InForm h := by
  obtain ⟨entry, -, g, hentry, hname⟩ := exists_entry_of_mem_sanitize hh
  obtain ⟨hne, hvalue⟩ := mem_sanitize.1 hh
  refine ⟨hname ▸ (inForm_of_entry hentry).name, ?_⟩
  rw [hvalue]
  refine isTidy_joined hne fun v hv => ?_
  obtain ⟨entry', -, hentry'⟩ := mem_namedValues.1 (NameTable.mem_valuesNamed.1 hv)
  exact (inForm_of_entry hentry').value

/-- The lines of the headers of entries. -/
def canonical (entries : List Text) : List Text := (sanitize entries).map line

/-- The headers are read back from their lines, line by line. -/
theorem filterMap_ofEntry?_canonical (entries : List Text) :
    (canonical entries).filterMap ofEntry? = sanitize entries := by
  have hform (h : Header) (hh : h ∈ sanitize entries) := inForm_of_mem_sanitize hh
  unfold canonical
  rw [filterMap_ofEntry?_map_line fun h hh => (hform h hh).name,
    List.filterMap_congr fun h hh => tidied?_of_isTidy (hform h hh).value]
  exact List.filterMap_some

/-- The lines give every name its values in one. -/
theorem valuesNamed_canonical (name : Text) (entries : List Text) :
    valuesNamed name (namedValues (canonical entries)) =
      merged (valuesNamed name (namedValues entries)) := by
  have hvalue : value ∘ Header.mk name = id := rfl
  rw [namedValues, filterMap_ofEntry?_canonical, valuesNamed_map_header, filter_sanitize,
    List.map_map, hvalue, List.map_id]

/-- Entries may be brought into form in parts. -/
theorem canonical_append_canonical (xs ys : List Text) :
    canonical (canonical xs ++ canonical ys) = canonical (xs ++ ys) := by
  unfold canonical
  -- the values of a name need not be the same, but they come to the same once they are merged
  refine congrArg (List.map line) (sanitize_eq_of_merged_eq fun name => ?_)
  show merged (valuesNamed name (namedValues (canonical xs ++ canonical ys))) = _
  rw [namedValues_append, namedValues_append, NameTable.valuesNamed_append,
    NameTable.valuesNamed_append, valuesNamed_canonical, valuesNamed_canonical,
    merged_append_merged]

/-! ## What the lines say -/

/-- The value that an entry gives to a name, brought into form; none if the entry has another name
or a blank value. -/
def entryValue? (name entry : Text) : Option Text :=
  match Text.cut? ':' entry with
  | none => none
  | some (n, value) =>
    if Text.lower (Text.trim n) = name ∧ ¬AllBlank value then some (tidy value) else none

theorem toList_entryValue? {name : Text} (hname : name ≠ []) (entry : Text) :
    (entryValue? name entry).toList = valuesNamed name (namedValues [entry]) := by
  unfold entryValue? namedValues
  cases hcut : Text.cut? ':' entry with
  | none =>
    rw [List.filterMap_cons_none (ofEntry?_of_not_mem ((Text.cut?_eq_none_iff _ _).1 hcut))]
    rfl
  | some p =>
    obtain ⟨n, value⟩ := p
    obtain ⟨rfl, hcolon⟩ := (Text.cut?_eq_some_iff _ _ _ _).1 hcut
    rw [List.filterMap_cons, ofEntry?_append_cons hcolon, ofParts?]
    -- a blank name is none that is asked for, though the entry is dropped for it as well
    by_cases hblank : AllBlank value
    · simp [hblank, tidy_eq_nil_iff, NameTable.valuesNamed]
    · by_cases hn : Text.lower (Text.trim n) = name
      · simp [hblank, hn, hname, tidy_eq_nil_iff, NameTable.valuesNamed]
      · by_cases hnil : Text.lower (Text.trim n) = []
        · simp [hnil, hname.symm, NameTable.valuesNamed]
        · simp [hblank, hn, hnil, tidy_eq_nil_iff, NameTable.valuesNamed]

/-- The values under a name are those that entries give to it. -/
theorem valuesNamed_eq_filterMap {name : Text} (hname : name ≠ []) (entries : List Text) :
    valuesNamed name (namedValues entries) = entries.filterMap (entryValue? name) := by
  induction entries with
  | nil => rfl
  | cons entry entries ih =>
    rw [valuesNamed_namedValues_cons, ← toList_entryValue? hname, ih, List.filterMap_cons]
    cases entryValue? name entry with
    | none => rfl
    | some value => rfl

/-- Whether lines are those of the headers of entries: names ascend strictly, names and values are
in form, and each name has all values that entries give to it. -/
structure IsCanonical (entries lines : List Text) : Prop where
  ascending : (lines.map nameOf).Pairwise fun a b => Text.precedes a b = true
  inForm : ∀ l ∈ lines, ∃ h : Header, l = h.name ++ ':' :: h.value ∧ InForm h
  values : ∀ name, name ≠ [] → lines.filter (fun l => nameOf l = name) =
    match entries.filterMap (entryValue? name) with
    | [] => []
    | values => [name ++ ':' :: Text.joined [','] values]

theorem isCanonical_canonical (entries : List Text) : IsCanonical entries (canonical entries) := by
  have hform (h : Header) (hh : h ∈ sanitize entries) := inForm_of_mem_sanitize hh
  have hcolon (h : Header) (hh : h ∈ sanitize entries) := (hform h hh).name.noColon
  constructor
  case ascending =>
    rw [canonical, map_nameOf_map_line hcolon, List.pairwise_map]
    exact ascending_gather _
  case inForm =>
    intro l hl
    obtain ⟨h, hh, rfl⟩ := List.mem_map.1 hl
    exact ⟨h, rfl, hform h hh⟩
  case values =>
    intro name hname
    rw [canonical, filter_map_line hcolon fun n => decide (n = name), filter_sanitize,
      valuesNamed_eq_filterMap hname]
    cases entries.filterMap (entryValue? name) with
    | nil => rfl
    | cons value values => rfl

/-- Bringing headers into form may be done in parts and changes nothing the second time; what comes
out has the form and holds just what the entries say. -/
theorem canonical_absorbs (xs ys : List Text) :
    canonical (canonical xs ++ canonical ys) = canonical (xs ++ ys) ∧
      canonical (canonical xs) = canonical xs ∧ IsCanonical xs (canonical xs) := by
  refine ⟨canonical_append_canonical xs ys, ?_, isCanonical_canonical xs⟩
  have habsorb := canonical_append_canonical xs []
  have hnil : canonical [] = [] := rfl
  rwa [hnil, List.append_nil, List.append_nil] at habsorb

end Header

end SignedAccess

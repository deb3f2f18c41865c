import SignedAccess.Proofs.SignedUrl.NameTable
import SignedAccess.Proofs.Text.LowerCase
import SignedAccess.Proofs.Text.Pieces
import SignedAccess.Proofs.Text.Trim
import SignedAccess.SignedUrl.CanonicalRequest

/-!
# The headers of a request

No name of a header holds a colon, so a header is read off its line.  The headers of a request are
those set by signing and those of the caller's entries, the values of one name together.

    g.line = h.line → g = h                                          (line_injective)
    h ∈ headersOf host opts ↔ h ∈ generatedHeaders host opts ∨ h ∈ Header.sanitize opts.headers
                                                                     (mem_headersOf)
-/

namespace SignedAccess

namespace Header

open NameTable (valuesNamed mem_valuesNamed)

/-! ## Lines -/

theorem nameOf_line {h : Header} (hname : ':' ∉ h.name) : nameOf h.line = h.name :=
  Text.before_append hname h.value

theorem mem_line {h : Header} {c : Char} (hc : c ≠ ':') :
    c ∈ h.line ↔ c ∈ h.name ∨ c ∈ h.value := by
  unfold line
  rw [List.mem_append, List.mem_cons, or_iff_right hc]

/-- A header is read off its line. -/
theorem line_injective {g h : Header} (hg : ':' ∉ g.name) (hh : ':' ∉ h.name)
    (heq : g.line = h.line) : g = h := by
  obtain ⟨hname, hvalue⟩ := Text.append_cons_inj hg hh heq
  cases g
  cases h
  simp only at hname hvalue
  rw [hname, hvalue]

/-! ## Insertion -/

/-- Headers that are put in one by one are those put in and those there before. -/
theorem mem_foldl_insert {new headers : List Header} {h : Header} :
    h ∈ new.foldl (fun headers h => insert h headers) headers ↔ h ∈ new ∨ h ∈ headers := by
  induction new generalizing headers with
  | nil => simp
  | cons g new ih => rw [List.foldl_cons, ih, mem_insert, List.mem_cons, or_left_comm, or_assoc]

/-! ## Entries -/

/-- The name of an entry ends at its first colon. -/
theorem colon_not_mem_name_of_ofEntry? {entry : Text} {h : Header}
    (hentry : ofEntry? entry = some h) : ':' ∉ h.name := by
  unfold ofEntry? at hentry
  split at hentry
  · cases hentry
  · next name value hcut =>
    extract_lets g at hentry
    split at hentry
    · cases hentry
    · rw [← Option.some.inj hentry]
      intro hmem
      -- lower case brings in no colon, so it would stand in front of the first one
      have htrim : ':' ∈ Text.trim name := Text.mem_of_mem_lower (by decide) (by decide) hmem
      exact ((Text.cut?_eq_some_iff _ _ _ _).1 hcut).2 (Text.mem_of_mem_trim htrim)

def namedValues (entries : List Text) : List (Text × Text) :=
  (entries.filterMap ofEntry?).map fun h => (h.name, h.value)

theorem mem_namedValues {entries : List Text} {name value : Text} :
    (name, value) ∈ namedValues entries ↔
      ∃ entry ∈ entries, ofEntry? entry = some ⟨name, value⟩ := by
  unfold namedValues
  rw [List.mem_map]
  constructor
  · rintro ⟨h, hmem, heq⟩
    cases heq
    exact List.mem_filterMap.1 hmem
  · rintro ⟨entry, hentry, hsome⟩
    exact ⟨⟨name, value⟩, List.mem_filterMap.2 ⟨entry, hentry, hsome⟩, rfl⟩

/-- A gathered header has all values that came with its name. -/
theorem mem_gather {headers : List Header} {h : Header} :
    h ∈ gather headers ↔ valuesNamed h.name (headers.map fun g => (g.name, g.value)) ≠ [] ∧
      h.value =
        Text.joined [','] (valuesNamed h.name (headers.map fun g => (g.name, g.value))) := by
  unfold gather
  rw [List.mem_map]
  constructor
  · rintro ⟨e, he, rfl⟩
    obtain ⟨hvalues, hne⟩ := NameTable.mem_ofPairs.1 he
    rw [hvalues] at hne
    exact ⟨hne, congrArg (Text.joined [',']) hvalues⟩
  · rintro ⟨hne, hvalue⟩
    refine ⟨(h.name, valuesNamed h.name (headers.map fun g => (g.name, g.value))), ?_, ?_⟩
    · exact NameTable.mem_ofPairs.2 ⟨rfl, hne⟩
    · unfold ofValues
      rw [← hvalue]

/-- A sanitized header has all values that came with its name. -/
theorem mem_sanitize {entries : List Text} {h : Header} :
    h ∈ sanitize entries ↔ valuesNamed h.name (namedValues entries) ≠ [] ∧
      h.value = Text.joined [','] (valuesNamed h.name (namedValues entries)) := mem_gather

theorem exists_entry_of_mem_sanitize {entries : List Text} {h : Header}
    (hh : h ∈ sanitize entries) :
    ∃ entry ∈ entries, ∃ g, ofEntry? entry = some g ∧ g.name = h.name := by
  obtain ⟨value, hvalue⟩ := List.exists_mem_of_ne_nil _ (mem_sanitize.1 hh).1
  obtain ⟨entry, hentry, hsome⟩ := mem_namedValues.1 (mem_valuesNamed.1 hvalue)
  exact ⟨entry, hentry, _, hsome, rfl⟩

theorem colon_not_mem_name_of_mem_sanitize {entries : List Text} {h : Header}
    (hh : h ∈ sanitize entries) : ':' ∉ h.name := by
  obtain ⟨entry, -, g, hsome, hname⟩ := exists_entry_of_mem_sanitize hh
  rw [← hname]
  exact colon_not_mem_name_of_ofEntry? hsome

/-- What stands in the line of a sanitized header, but for the commas that join values, stands in
the line of an entry. -/
theorem exists_entry_of_mem_line {entries : List Text} {h : Header} {c : Char} (hcomma : c ≠ ',')
    (hh : h ∈ sanitize entries) (hc : c ∈ h.line) :
    ∃ entry ∈ entries, ∃ g, ofEntry? entry = some g ∧ c ∈ g.line := by
  rcases List.mem_append.1 hc with hname | hrest
  · obtain ⟨entry, hentry, g, hsome, heq⟩ := exists_entry_of_mem_sanitize hh
    exact ⟨entry, hentry, g, hsome, List.mem_append_left _ (heq ▸ hname)⟩
  · rcases List.mem_cons.1 hrest with rfl | hvalue
    · obtain ⟨entry, hentry, g, hsome, -⟩ := exists_entry_of_mem_sanitize hh
      exact ⟨entry, hentry, g, hsome, List.mem_append_right _ List.mem_cons_self⟩
    · rw [(mem_sanitize.1 hh).2] at hvalue
      rcases Text.mem_joined hvalue with hsep | ⟨value, hmem, hin⟩
      · exact absurd (List.mem_singleton.1 hsep) hcomma
      · obtain ⟨entry, hentry, hsome⟩ := mem_namedValues.1 (mem_valuesNamed.1 hmem)
        exact ⟨entry, hentry, _, hsome, List.mem_append_right _ (List.mem_cons_of_mem _ hin)⟩

/-- Every entry that gives a header stands under its name in the sanitized headers. -/
theorem exists_mem_sanitize {entries : List Text} {entry : Text} {g : Header}
    (hentry : entry ∈ entries) (hsome : ofEntry? entry = some g) :
    ∃ h ∈ sanitize entries, h.name = g.name ∧ ∀ c ∈ g.line, c ∈ h.line := by
  have hmem : g.value ∈ valuesNamed g.name (namedValues entries) :=
    mem_valuesNamed.2 (mem_namedValues.2 ⟨entry, hentry, hsome⟩)
  refine ⟨⟨g.name, Text.joined [','] (valuesNamed g.name (namedValues entries))⟩, ?_, rfl, ?_⟩
  · exact mem_sanitize.2 ⟨List.ne_nil_of_mem hmem, rfl⟩
  · intro c hc
    rcases List.mem_append.1 hc with hname | hrest
    · exact List.mem_append_left _ hname
    · refine List.mem_append_right _ ?_
      rcases List.mem_cons.1 hrest with rfl | hvalue
      · exact List.mem_cons_self
      · exact List.mem_cons_of_mem _ (Text.mem_joined_of_mem hmem hvalue)

end Header

namespace CanonicalRequest

/-! ## Requests -/

def generatedHeaders (host : Text) (opts : SignedUrlOptions) : List Header :=
  ⟨hostName, host⟩ ::
    ((if opts.contentType = [] then [] else [⟨contentTypeName, Text.trim opts.contentType⟩]) ++
      if opts.md5 = [] then [] else [⟨contentMd5Name, Text.trim opts.md5⟩])

theorem mem_generatedHeaders {host : Text} {opts : SignedUrlOptions} {h : Header} :
    h ∈ generatedHeaders host opts ↔ h = ⟨hostName, host⟩ ∨
      (opts.contentType ≠ [] ∧ h = ⟨contentTypeName, Text.trim opts.contentType⟩) ∨
      (opts.md5 ≠ [] ∧ h = ⟨contentMd5Name, Text.trim opts.md5⟩) := by
  unfold generatedHeaders
  rw [List.mem_cons, List.mem_append]
  by_cases htype : opts.contentType = []
  · by_cases hmd5 : opts.md5 = [] <;> simp [htype, hmd5]
  · by_cases hmd5 : opts.md5 = [] <;> simp [htype, hmd5]

/-- The headers set by signing are put in among those of the caller. -/
theorem headersOf_eq_foldl (host : Text) (opts : SignedUrlOptions) : headersOf host opts =
    (generatedHeaders host opts).foldl (fun headers h => Header.insert h headers)
      (Header.sanitize opts.headers) := by
  unfold headersOf generatedHeaders
  by_cases htype : opts.contentType = []
  · by_cases hmd5 : opts.md5 = [] <;> simp [htype, hmd5]
  · by_cases hmd5 : opts.md5 = [] <;> simp [htype, hmd5]

/-- The headers of a request are those set by signing and those of the caller. -/
theorem mem_headersOf {host : Text} {opts : SignedUrlOptions} {h : Header} :
    h ∈ headersOf host opts ↔
      h ∈ generatedHeaders host opts ∨ h ∈ Header.sanitize opts.headers := by
  rw [headersOf_eq_foldl]
  exact Header.mem_foldl_insert

theorem isGenerated_of_mem_generatedHeaders {host : Text} {opts : SignedUrlOptions} {h : Header}
    (hh : h ∈ generatedHeaders host opts) : h.name ∈ generatedNames := by
  rcases mem_generatedHeaders.1 hh with rfl | ⟨-, rfl⟩ | ⟨-, rfl⟩
  · exact List.mem_cons_self
  · exact List.mem_cons_of_mem _ List.mem_cons_self
  · exact List.mem_cons_of_mem _ (List.mem_cons_of_mem _ List.mem_cons_self)

theorem colon_not_mem_name_of_mem_headersOf {host : Text} {opts : SignedUrlOptions} {h : Header}
    (hh : h ∈ headersOf host opts) : ':' ∉ h.name := by
  rcases mem_headersOf.1 hh with hgen | hsan
  · have hnames : ∀ name ∈ generatedNames, ':' ∉ name := by decide
    exact hnames _ (isGenerated_of_mem_generatedHeaders hgen)
  · exact Header.colon_not_mem_name_of_mem_sanitize hsan

/-- The digest of the body is announced by a header or missing. -/
theorem payloadHashOf_eq (entries : List Text) : payloadHashOf entries = unsignedPayload ∨
    ∃ h ∈ Header.sanitize entries, payloadHashOf entries = h.value := by
  unfold payloadHashOf Header.value?
  cases hfind : (Header.sanitize entries).find? fun h => h.name = payloadHashHeader with
  | none => exact Or.inl rfl
  | some h => exact Or.inr ⟨h, List.mem_of_find?_eq_some hfind, rfl⟩

end CanonicalRequest

end SignedAccess

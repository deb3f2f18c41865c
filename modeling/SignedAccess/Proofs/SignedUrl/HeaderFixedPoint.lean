import SignedAccess.Proofs.SignedUrl.HeaderForm
import SignedAccess.Proofs.Bytes.Base64

/-!
# Headers of a request brought into form again

A server may bring the headers that it receives into form as the client does with those of the
caller.  Headers that ascend stay as they are under it just when all of them are in form.  The
headers of a request ascend, and the caller's and the digest of the content are in form; the host
and the content type are signed as they were given, so that they may come out otherwise.

    canonical (hs.map line) = hs.map line ↔ every header of hs is in form
                                                                   (canonical_map_line_eq_self_iff)
    opts.check now = .ok () → the request is built and only its host and its content type may change
                                                                   (build_headersReform)
-/

namespace SignedAccess

namespace Header

open Text (AllBlank NoRun)

/-! ## Headers that ascend -/

/-- Headers that ascend are gathered already. -/
theorem gather_of_ascending {headers : List Header} (hasc : Ascending headers) :
    gather headers = headers := by
  have hone {g : Header} (hg : g ∈ headers) :
      Text.joined [','] ((headers.filter fun x => x.name = g.name).map value) = g.value := by
    rw [filter_name_eq_of_mem hasc.name_ne hg]
    exact List.intercalate_singleton
  refine NameTable.eq_of_ascending (ascending_gather headers) hasc fun h => ?_
  rw [mem_gather, valuesNamed_map_header]
  constructor
  · rintro ⟨hne, hvalue⟩
    obtain ⟨_, hmem⟩ := List.exists_mem_of_ne_nil _ hne
    obtain ⟨g, hg, -⟩ := List.mem_map.1 hmem
    obtain ⟨hg, hname⟩ := List.mem_filter.1 hg
    have hname : g.name = h.name := of_decide_eq_true hname
    rw [← hname, hone hg] at hvalue
    have heq : h = g := by
      cases h
      cases g
      simp only at hname hvalue
      rw [hname, hvalue]
    rwa [heq]
  · intro hh
    refine ⟨?_, (hone hh).symm⟩
    rw [filter_name_eq_of_mem hasc.name_ne hh]
    exact List.cons_ne_nil _ _

/-- Headers that ascend under names in form are read back from their lines, but for what is changed
in their values. -/
theorem sanitize_map_line {headers : List Header} (hasc : Ascending headers)
    (hname : ∀ h ∈ headers, IsName h.name) :
    sanitize (headers.map line) = headers.filterMap tidied? := by
  unfold sanitize
  rw [filterMap_ofEntry?_map_line hname]
  refine gather_of_ascending (hasc.filterMap tidied? fun g g' hlt h hh h' hh' => ?_)
  obtain ⟨-, rfl⟩ := tidied?_eq_some_iff.1 hh
  obtain ⟨-, rfl⟩ := tidied?_eq_some_iff.1 hh'
  exact hlt

/-- Headers that ascend are left alone just when all of them are in form. -/
theorem canonical_map_line_eq_self_iff {headers : List Header} (hasc : Ascending headers)
    (hcolon : ∀ h ∈ headers, ':' ∉ h.name) :
    canonical (headers.map line) = headers.map line ↔ ∀ h ∈ headers, InForm h := by
  constructor
  · intro heq h hh
    have hline : h.line ∈ canonical (headers.map line) := by
      rw [heq]
      exact List.mem_map_of_mem hh
    obtain ⟨g, hg, hgh⟩ := List.mem_map.1 hline
    have hform := inForm_of_mem_sanitize hg
    rwa [← line_injective hform.name.noColon (hcolon h hh) hgh]
  · intro hform
    unfold canonical
    rw [sanitize_map_line hasc fun h hh => (hform h hh).name,
      List.filterMap_congr fun h hh => tidied?_of_isTidy (hform h hh).value, List.filterMap_some]

theorem map_line_filterMap_tidied? (name value : Text) :
    ([⟨name, value⟩].filterMap tidied?).map line =
      if AllBlank value then [] else [name ++ ':' :: tidy value] := by
  by_cases hblank : AllBlank value <;> simp [tidied?, hblank, line]

/-- A header keeps its name when its value is brought into form. -/
theorem filter_filterMap_tidied? (p : Text → Bool) (headers : List Header) :
    (headers.filterMap tidied?).filter (fun h => p h.name) =
      (headers.filter fun h => p h.name).filterMap tidied? := by
  rw [List.filter_filterMap, List.filterMap_filter]
  refine List.filterMap_congr fun h _ => ?_
  unfold tidied?
  by_cases hblank : AllBlank h.value
  · simp [hblank]
  · by_cases hp : p h.name = true <;> simp [hblank, hp, Option.filter]

theorem tidy_trim (value : Text) : tidy (Text.trim value) = tidy value := by
  unfold tidy
  rw [Text.trim_trim]

/-- What has no blanks is a value in form. -/
theorem isTidy_of_no_blank {value : Text} (hne : value ≠ [])
    (h : ∀ c ∈ value, Text.isBlank c = false) : IsTidy value := by
  have hrun {c : Char} (hc : Text.isBlank c = true) : NoRun c value := by
    refine Text.noRun_of_not_mem fun hmem => ?_
    rw [h c hmem] at hc
    cases hc
  refine ⟨hne, ?_, hrun (by decide), hrun (by decide)⟩
  exact Text.trim_eq_self_iff.2 ⟨fun c hc => h c (List.mem_of_mem_head? hc),
    fun c hc => h c (List.mem_of_mem_getLast? hc)⟩

end Header

namespace CanonicalRequest

open Text (AllBlank)
open Header (IsName IsTidy canonical tidy)

/-- The names that are set by signing are in form. -/
theorem isName_of_mem_generatedNames : ∀ name ∈ generatedNames, IsName name := by
  have hnames : ∀ name ∈ generatedNames,
      name ≠ [] ∧ Text.trim name = name ∧ Text.lower name = name ∧ ':' ∉ name := by
    decide +kernel
  intro name hname
  obtain ⟨hne, htrim, hlower, hcolon⟩ := hnames name hname
  exact ⟨hne, htrim, hlower, hcolon⟩

theorem isName_of_mem_headersOf {host : Text} {opts : SignedUrlOptions} {h : Header}
    (hh : h ∈ headersOf host opts) : IsName h.name := by
  rcases mem_headersOf.1 hh with hgen | hsan
  · exact isName_of_mem_generatedNames _ (isGenerated_of_mem_generatedHeaders hgen)
  · exact (Header.inForm_of_mem_sanitize hsan).name

/-- What becomes of the lines of a request that are brought into form: the host and the content type
may change or, being blank, go; everything else stays. -/
structure HeadersReform (request : CanonicalRequest) (host : Text) (opts : SignedUrlOptions) :
    Prop where
  unchanged_iff : canonical request.headers = request.headers ↔
    IsTidy host ∧ (opts.contentType = [] ∨ IsTidy (Text.trim opts.contentType))
  host : (canonical request.headers).filter (fun l => Header.nameOf l = "host".toList) =
    if AllBlank host then [] else ["host:".toList ++ tidy host]
  contentType :
    (canonical request.headers).filter (fun l => Header.nameOf l = "content-type".toList) =
      if AllBlank opts.contentType then [] else ["content-type:".toList ++ tidy opts.contentType]
  rest : (canonical request.headers).filter
      (fun l => Header.nameOf l ∉ ["host".toList, "content-type".toList]) =
    request.headers.filter (fun l => Header.nameOf l ∉ ["host".toList, "content-type".toList])

end CanonicalRequest

namespace AcceptedCall

open CanonicalRequest (generatedHeaders hostName contentTypeName)
open Header (IsTidy InForm canonical tidied? tidy)
open Text (AllBlank)

variable (call : AcceptedCall)

theorem isTidy_md5 (h : call.opts.md5 ≠ []) : IsTidy (Text.trim call.opts.md5) := by
  obtain ⟨digest, hdigest⟩ := call.meets .invalidMd5 h
  have htidy := Header.isTidy_of_no_blank h (Base64.isBlank_of_decodePadded? hdigest)
  rwa [htidy.trimmed]

/-- A header gives the host or the content type or is in form. -/
theorem mem_headers_cases {h : Header} (hh : h ∈ call.headers) : h = ⟨hostName, call.host⟩ ∨
    (call.opts.contentType ≠ [] ∧ h = ⟨contentTypeName, Text.trim call.opts.contentType⟩) ∨
      InForm h := by
  rcases CanonicalRequest.mem_headersOf.1 hh with hset | hsan
  · rcases CanonicalRequest.mem_generatedHeaders.1 hset with hhost | htype | ⟨hne, rfl⟩
    · exact Or.inl hhost
    · exact Or.inr (Or.inl htype)
    · have hname := CanonicalRequest.isName_of_mem_headersOf hh
      exact Or.inr (Or.inr ⟨hname, call.isTidy_md5 hne⟩)
  · exact Or.inr (Or.inr (Header.inForm_of_mem_sanitize hsan))

theorem forall_inForm_iff : (∀ h ∈ call.headers, InForm h) ↔
    IsTidy call.host ∧ (call.opts.contentType = [] ∨ IsTidy (Text.trim call.opts.contentType)) := by
  have hset {h : Header} (hh : h ∈ generatedHeaders call.host call.opts) : h ∈ call.headers :=
    CanonicalRequest.mem_headersOf.2 (Or.inl hh)
  constructor
  · intro hform
    refine ⟨(hform _ (hset List.mem_cons_self)).value, or_iff_not_imp_left.2 fun hne => ?_⟩
    refine (hform ⟨contentTypeName, Text.trim call.opts.contentType⟩ (hset ?_)).value
    exact CanonicalRequest.mem_generatedHeaders.2 (Or.inr (Or.inl ⟨hne, rfl⟩))
  · rintro ⟨hhost, htype⟩ h hh
    rcases call.mem_headers_cases hh with rfl | ⟨hne, rfl⟩ | hform
    · exact ⟨CanonicalRequest.isName_of_mem_headersOf hh, hhost⟩
    · exact ⟨CanonicalRequest.isName_of_mem_headersOf hh, htype.resolve_left hne⟩
    · exact hform

/-- Headers of other names keep their values. -/
theorem tidied?_of_mem_headers {h : Header} (hh : h ∈ call.headers)
    (hname : h.name ∉ [hostName, contentTypeName]) : tidied? h = some h := by
  rcases call.mem_headers_cases hh with rfl | ⟨-, rfl⟩ | hform
  · exact absurd List.mem_cons_self hname
  · exact absurd (List.mem_cons_of_mem _ List.mem_cons_self) hname
  · exact Header.tidied?_of_isTidy hform.value

/-- The lines of some names are brought into form apart from the others. -/
theorem filter_canonical_headers (p : Text → Bool) :
    (canonical call.request.headers).filter (fun l => p (Header.nameOf l)) =
      ((call.headers.filter fun h => p h.name).filterMap tidied?).map Header.line := by
  have hname (h : Header) (hh : h ∈ call.headers) := CanonicalRequest.isName_of_mem_headersOf hh
  have hsan := Header.sanitize_map_line call.ascending_headers hname
  unfold canonical
  rw [call.request_headers, hsan, Header.filter_map_line ?_ p, Header.filter_filterMap_tidied?]
  rw [← hsan]
  exact fun h => Header.colon_not_mem_name_of_mem_sanitize

/-- Only the host and the content type may change when headers are brought into form. -/
theorem headersReform : call.request.HeadersReform call.host call.opts := by
  have hcolon := call.colon_not_mem_name
  constructor
  case unchanged_iff =>
    rw [call.request_headers, Header.canonical_map_line_eq_self_iff call.ascending_headers hcolon,
      call.forall_inForm_iff]
  case host =>
    refine (call.filter_canonical_headers fun n => decide (n = hostName)).trans ?_
    rw [call.filter_headers_host]
    exact Header.map_line_filterMap_tidied? hostName call.host
  case contentType =>
    refine (call.filter_canonical_headers fun n => decide (n = contentTypeName)).trans ?_
    rw [call.filter_headers_contentType]
    -- no content type and a blank one come to the same here, though the latter has a line
    by_cases hnil : call.opts.contentType = []
    · have hblank : AllBlank call.opts.contentType := by simp [hnil, AllBlank]
      rw [if_pos hnil, if_pos hblank]
      rfl
    · rw [if_neg hnil, ← Header.tidy_trim]
      simp only [← @Text.allBlank_trim_iff call.opts.contentType]
      exact Header.map_line_filterMap_tidied? contentTypeName _
  case rest =>
    let other (n : Text) : Bool := decide (n ∉ [hostName, contentTypeName])
    have hkept (h : Header) (hh : h ∈ call.headers.filter fun h => other h.name) :
        tidied? h = some h := by
      obtain ⟨hmem, hname⟩ := List.mem_filter.1 hh
      exact call.tidied?_of_mem_headers hmem (of_decide_eq_true hname)
    refine (call.filter_canonical_headers other).trans ?_
    rw [List.filterMap_congr hkept, List.filterMap_some]
    exact (call.filter_request_headers other).symm

end AcceptedCall

namespace CanonicalRequest

open Header (canonical tidy)
open Text (AllBlank)

variable {opts : SignedUrlOptions} {now : DateTime}

/-- Under options that are accepted a request is built, and bringing its headers into form again
changes no more than its host and its content type, and these just where they are not in form. -/
theorem build_headersReform (h : opts.check now = .ok ()) (storage : StorageSettings)
    (bucket object : Text) :
    ∃ request, build storage bucket object opts now = .ok request ∧
      request.HeadersReform (opts.style.host storage bucket) opts := by
  obtain ⟨call, rfl, rfl, rfl, rfl, rfl⟩ :=
    AcceptedCall.exists_of_check_eq_ok h storage bucket object
  exact ⟨call.request, call.built, call.headersReform⟩

/-- A content type loses one of two spaces and a blank host its line, so that the headers change. -/
theorem build_headersReform_spaces :
    let opts := { AcceptedCall.bareWith ["b: x  y ".toList, "A:1".toList] with
      contentType := " text/plain;  charset=utf-8".toList
      style := .boundHostname " ".toList }
    ∃ request, build ⟨[]⟩ "bucket".toList "object".toList opts AcceptedCall.midnight = .ok request ∧
      canonical request.headers ≠ request.headers ∧
      (canonical request.headers).filter (fun l => Header.nameOf l = "host".toList) = [] ∧
      (canonical request.headers).filter (fun l => Header.nameOf l = "content-type".toList) =
        ["content-type:text/plain; charset=utf-8".toList] := by
  intro opts
  have hcheck : opts.check AcceptedCall.midnight = .ok () := eq_ok_of_toBool (by decide +kernel)
  obtain ⟨request, hbuilt, hreform⟩ :=
    build_headersReform hcheck ⟨[]⟩ "bucket".toList "object".toList
  have hblank : AllBlank (opts.style.host ⟨[]⟩ "bucket".toList) := by decide
  have hno : ¬AllBlank opts.contentType := by decide
  have htidy : "content-type:".toList ++ tidy opts.contentType =
      "content-type:text/plain; charset=utf-8".toList := by decide +kernel
  refine ⟨request, hbuilt, fun heq => ?_, hreform.host.trans (if_pos hblank), ?_⟩
  · -- the host is no value in form
    have htrimmed := (hreform.unchanged_iff.1 heq).1.trimmed
    rw [Text.trim_of_allBlank hblank] at htrimmed
    cases htrimmed
  · rw [hreform.contentType, if_neg hno, htidy]

/-- A content type with two spaces is signed with both, so that its line is not in form. -/
theorem headers_ne_canonical_of_spaces :
    let opts := { AcceptedCall.bareWith [] with
      contentType := "text/plain;  charset=utf-8".toList }
    opts.check AcceptedCall.midnight = .ok () ∧
      ∃ request, build ⟨[]⟩ "bucket".toList "object".toList opts AcceptedCall.midnight =
          .ok request ∧
        request.headers = ["content-type:text/plain;  charset=utf-8".toList,
          "host:storage.googleapis.com".toList] ∧
        canonical request.headers = ["content-type:text/plain; charset=utf-8".toList,
          "host:storage.googleapis.com".toList] := by
  intro opts
  refine ⟨eq_ok_of_toBool (by decide +kernel), _, rfl, ?_, ?_⟩
  · decide +kernel
  · decide +kernel

end CanonicalRequest

end SignedAccess

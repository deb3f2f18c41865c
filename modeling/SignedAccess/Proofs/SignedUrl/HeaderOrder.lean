import SignedAccess.Proofs.SignedUrl.AcceptedCall
import SignedAccess.Proofs.SignedUrl.HeaderList

/-!
# The order of headers

The headers that are set by signing are put in among those of the caller, which are in order and,
under options that are accepted, have other names.  So the headers of a request ascend strictly by
name, and each name can be read off its line.

    (∀ g ∈ sanitize opts.headers, g.name ∉ generatedNames) → Ascending (headersOf host opts)
                                                                     (ascending_headersOf)
    opts.check now = .ok () → the request is built and its headers are in order
                                                                     (build_headersInOrder)
-/

namespace SignedAccess

namespace Header

open NameTable (valuesNamed)

def Ascending (headers : List Header) : Prop :=
  headers.Pairwise fun a b => Text.precedes a.name b.name = true

/-! ## Insertion -/

/-- A header of a new name is put in its place. -/
theorem ascending_insert {h : Header} {headers : List Header} (hasc : Ascending headers)
    (hnew : ∀ g ∈ headers, g.name ≠ h.name) : Ascending (insert h headers) := by
  induction headers with
  | nil => exact List.pairwise_singleton _ _
  | cons g rest ih =>
    have hhead := (List.pairwise_cons.1 hasc).1
    have hrest : Ascending rest := (List.pairwise_cons.1 hasc).2
    unfold insert
    split
    · next hlt =>
      refine List.pairwise_cons.2 ⟨fun x hx => ?_, hasc⟩
      rcases List.mem_cons.1 hx with rfl | hx
      · exact hlt
      · exact Text.precedes_trans hlt (hhead x hx)
    · next hlt =>
      have hfollows : Text.precedes g.name h.name = true :=
        Text.precedes_of_ne (hnew g List.mem_cons_self).symm (by simpa using hlt)
      have hnew' : ∀ x ∈ rest, x.name ≠ h.name := fun x hx => hnew x (List.mem_cons_of_mem _ hx)
      refine List.pairwise_cons.2 ⟨fun x hx => ?_, ih hrest hnew'⟩
      rcases mem_insert.1 hx with rfl | hx
      · exact hfollows
      · exact hhead x hx

/-- A header that fails a test changes nothing among those that pass it. -/
theorem filter_insert_of_not {h : Header} {p : Header → Bool} (hp : p h = false)
    (headers : List Header) : (insert h headers).filter p = headers.filter p := by
  induction headers with
  | nil => simp [insert, hp]
  | cons g rest ih =>
    unfold insert
    split
    · simp [hp]
    · rw [List.filter_cons, List.filter_cons, ih]

/-- Headers of new names are put in their places one by one. -/
theorem ascending_foldl_insert {new headers : List Header} (hasc : Ascending headers)
    (hdistinct : new.Pairwise fun a b => a.name ≠ b.name)
    (hnew : ∀ h ∈ new, ∀ g ∈ headers, g.name ≠ h.name) :
    Ascending (new.foldl (fun headers h => insert h headers) headers) := by
  induction new generalizing headers with
  | nil => exact hasc
  | cons h new ih =>
    obtain ⟨hhead, htail⟩ := List.pairwise_cons.1 hdistinct
    -- the names still to come are new beside the one that is put in first
    refine ih (ascending_insert hasc (hnew h List.mem_cons_self)) htail fun x hx g hg => ?_
    rcases mem_insert.1 hg with rfl | hg
    · exact hhead x hx
    · exact hnew x (List.mem_cons_of_mem _ hx) g hg

theorem filter_foldl_insert_of_not {new : List Header} {p : Header → Bool}
    (hp : ∀ h ∈ new, p h = false) (headers : List Header) :
    (new.foldl (fun headers h => insert h headers) headers).filter p = headers.filter p := by
  induction new generalizing headers with
  | nil => rfl
  | cons h new ih =>
    rw [List.foldl_cons, ih fun x hx => hp x (List.mem_cons_of_mem _ hx),
      filter_insert_of_not (hp h List.mem_cons_self)]

/-- Headers that ascend have different names. -/
theorem Ascending.name_ne {headers : List Header} (h : Ascending headers) :
    headers.Pairwise fun a b => a.name ≠ b.name := NameTable.key_ne_of_ascending h

/-- Among headers of different names each is the only one of its name. -/
theorem filter_name_eq_of_mem {headers : List Header}
    (hne : headers.Pairwise fun a b => a.name ≠ b.name) {h : Header} (hh : h ∈ headers) :
    headers.filter (fun g => g.name = h.name) = [h] := by
  induction headers with
  | nil => cases hh
  | cons g rest ih =>
    obtain ⟨hhead, htail⟩ := List.pairwise_cons.1 hne
    rcases List.mem_cons.1 hh with rfl | hh
    · have hnil : rest.filter (fun g => g.name = h.name) = [] :=
        List.filter_eq_nil_iff.2 fun x hx => by simpa using (hhead x hx).symm
      rw [List.filter_cons_of_pos (by simp), hnil]
    · rw [List.filter_cons_of_neg (by simpa using hhead h hh), ih htail hh]

/-! ## Values -/

/-- The value under a name among sanitized headers is made of all that came with the name. -/
theorem value?_sanitize (name : Text) (entries : List Text) : value? name (sanitize entries) =
    match valuesNamed name (namedValues entries) with
    | [] => none
    | values => some (Text.joined [','] values) := by
  unfold value?
  cases hfind : (sanitize entries).find? fun h => h.name = name with
  | none =>
    have hnil : valuesNamed name (namedValues entries) = [] := by
      refine Classical.byContradiction fun hne => ?_
      have hmem : (⟨name, Text.joined [','] (valuesNamed name (namedValues entries))⟩ : Header) ∈
          sanitize entries := mem_sanitize.2 ⟨hne, rfl⟩
      simpa using List.find?_eq_none.1 hfind _ hmem
    rw [hnil]
    rfl
  | some h =>
    have hname : h.name = name := by simpa using List.find?_some hfind
    obtain ⟨hne, hvalue⟩ := mem_sanitize.1 (List.mem_of_find?_eq_some hfind)
    rw [hname] at hne hvalue
    obtain ⟨value, values, hcons⟩ := List.exists_cons_of_ne_nil hne
    rw [Option.map_some, hvalue, hcons]

/-! ## Lines -/

/-- Names are read off the lines of headers. -/
theorem map_nameOf_map_line {headers : List Header} (hcolon : ∀ h ∈ headers, ':' ∉ h.name) :
    (headers.map line).map nameOf = headers.map name := by
  rw [List.map_map]
  exact List.map_congr_left fun h hh => nameOf_line (hcolon h hh)

theorem filter_map_line {headers : List Header} (hcolon : ∀ h ∈ headers, ':' ∉ h.name)
    (p : Text → Bool) : (headers.map line).filter (fun l => p (nameOf l)) =
      (headers.filter fun h => p h.name).map line := by
  rw [List.filter_map]
  refine congrArg (List.map line) (List.filter_congr fun h hh => ?_)
  exact congrArg p (nameOf_line (hcolon h hh))

end Header

namespace CanonicalRequest

open NameTable (valuesNamed)

variable {host : Text} {opts : SignedUrlOptions}

/-! ## Headers set by signing -/

theorem pairwise_name_generatedHeaders (host : Text) (opts : SignedUrlOptions) :
    (generatedHeaders host opts).Pairwise fun a b => a.name ≠ b.name := by
  have htypeHost : hostName ≠ contentTypeName := by decide
  have hmd5Host : hostName ≠ contentMd5Name := by decide
  have hmd5Type : contentTypeName ≠ contentMd5Name := by decide
  unfold generatedHeaders
  by_cases htype : opts.contentType = []
  · by_cases hmd5 : opts.md5 = [] <;> simp [htype, hmd5, hmd5Host]
  · by_cases hmd5 : opts.md5 = [] <;> simp [htype, hmd5, htypeHost, hmd5Host, hmd5Type]

theorem filter_generatedHeaders (host : Text) (opts : SignedUrlOptions) (name : Text) :
    (generatedHeaders host opts).filter (fun g => g.name = name) =
      (if hostName = name then [⟨hostName, host⟩] else []) ++
        ((if contentTypeName = name ∧ opts.contentType ≠ [] then
            [⟨contentTypeName, Text.trim opts.contentType⟩] else []) ++
          if contentMd5Name = name ∧ opts.md5 ≠ [] then
            [⟨contentMd5Name, Text.trim opts.md5⟩] else []) := by
  have hone (g : Header) (ps : Prop) [Decidable ps] :
      (if ps then [] else [g]).filter (fun g => g.name = name) =
        if g.name = name ∧ ¬ps then [g] else [] := by
    by_cases hps : ps <;> simp [hps, List.filter_cons]
  unfold generatedHeaders
  rw [List.filter_cons, List.filter_append, hone, hone]
  by_cases hhost : hostName = name <;> simp [hhost]

/-- If no header of the caller has a name that is set by signing, the headers of a request
ascend. -/
theorem ascending_headersOf (h : ∀ g ∈ Header.sanitize opts.headers, g.name ∉ generatedNames) :
    Header.Ascending (headersOf host opts) := by
  rw [headersOf_eq_foldl]
  refine Header.ascending_foldl_insert (Header.ascending_gather _)
    (pairwise_name_generatedHeaders host opts) fun x hx g hg heq => h g hg ?_
  rw [heq]
  exact isGenerated_of_mem_generatedHeaders hx

/-- The headers of a request under names that signing does not set are those of the caller. -/
theorem filter_headersOf_caller (h : ∀ g ∈ Header.sanitize opts.headers, g.name ∉ generatedNames) :
    (headersOf host opts).filter (fun g => g.name ∉ generatedNames) =
      Header.sanitize opts.headers := by
  rw [headersOf_eq_foldl, Header.filter_foldl_insert_of_not, List.filter_eq_self]
  · exact fun g hg => decide_eq_true (h g hg)
  · intro g hg
    exact decide_eq_false (not_not_intro (isGenerated_of_mem_generatedHeaders hg))

/-- The headers of a request under a name that signing sets are those set by signing. -/
theorem filter_headersOf_generated
    (h : ∀ g ∈ Header.sanitize opts.headers, g.name ∉ generatedNames) {name : Text}
    (hname : name ∈ generatedNames) :
    (headersOf host opts).filter (fun g => g.name = name) =
      (generatedHeaders host opts).filter (fun g => g.name = name) := by
  -- on both sides names are distinct, so that there is one header of the name or none
  by_cases hex : ∃ g ∈ generatedHeaders host opts, g.name = name
  · obtain ⟨g, hg, rfl⟩ := hex
    rw [Header.filter_name_eq_of_mem (pairwise_name_generatedHeaders host opts) hg,
      Header.filter_name_eq_of_mem (ascending_headersOf h).name_ne (mem_headersOf.2 (Or.inl hg))]
  · have hgenerated : ∀ g ∈ generatedHeaders host opts, g.name ≠ name :=
      fun g hg heq => hex ⟨g, hg, heq⟩
    have hcaller : ∀ g ∈ Header.sanitize opts.headers, g.name ≠ name :=
      fun g hg heq => h g hg (heq ▸ hname)
    have hall : ∀ g ∈ headersOf host opts, g.name ≠ name := by
      intro g hg
      rcases mem_headersOf.1 hg with hg | hg
      · exact hgenerated g hg
      · exact hcaller g hg
    rw [List.filter_eq_nil_iff.2 fun g hg => by simpa using hall g hg,
      List.filter_eq_nil_iff.2 fun g hg => by simpa using hgenerated g hg]

/-! ## Requests -/

/-- Whether the headers of a request to a host are in order, with just what signing sets and what
the caller gives. -/
structure HeadersInOrder (request : CanonicalRequest) (host : Text) (opts : SignedUrlOptions) :
    Prop where
  ascending : (request.headers.map Header.nameOf).Pairwise fun a b => Text.precedes a b = true
  distinct : (request.headers.map Header.nameOf).Nodup
  host : request.headers.filter (fun l => Header.nameOf l = "host".toList) =
    ["host:".toList ++ host]
  contentType : request.headers.filter (fun l => Header.nameOf l = "content-type".toList) =
    if opts.contentType = [] then [] else ["content-type:".toList ++ Text.trim opts.contentType]
  contentMd5 : request.headers.filter (fun l => Header.nameOf l = "content-md5".toList) =
    if opts.md5 = [] then [] else ["content-md5:".toList ++ Text.trim opts.md5]
  caller : request.headers.filter (fun l => Header.nameOf l ∉ generatedNames) =
    (Header.sanitize opts.headers).map Header.line
  signedHeaders : request.signedHeaders =
    Text.joined [';'] (request.headers.map Header.nameOf)
  /-- The digest of the body is what comes under its name, in any case of the letters. -/
  payloadHash : request.payloadHash =
    match valuesNamed "x-goog-content-sha256".toList (Header.namedValues opts.headers) with
    | [] => "UNSIGNED-PAYLOAD".toList
    | values => Text.joined [','] values

theorem payloadHashOf_eq_joined (entries : List Text) : payloadHashOf entries =
    match valuesNamed payloadHashHeader (Header.namedValues entries) with
    | [] => unsignedPayload
    | values => Text.joined [','] values := by
  unfold payloadHashOf
  rw [Header.value?_sanitize]
  split
  · rfl
  · rfl

end CanonicalRequest

namespace AcceptedCall

open CanonicalRequest (generatedNames generatedHeaders hostName contentTypeName contentMd5Name)

variable (call : AcceptedCall)

theorem name_not_mem_generatedNames :
    ∀ g ∈ Header.sanitize call.opts.headers, g.name ∉ generatedNames :=
  call.meets .reservedHeader

theorem colon_not_mem_name : ∀ h ∈ call.headers, ':' ∉ h.name :=
  fun _ hh => CanonicalRequest.colon_not_mem_name_of_mem_headersOf hh

theorem map_nameOf_request_headers :
    call.request.headers.map Header.nameOf = call.headers.map Header.name := by
  rw [call.request_headers]
  exact Header.map_nameOf_map_line call.colon_not_mem_name

theorem filter_request_headers (p : Text → Bool) :
    call.request.headers.filter (fun l => p (Header.nameOf l)) =
      (call.headers.filter fun h => p h.name).map Header.line := by
  rw [call.request_headers]
  exact Header.filter_map_line call.colon_not_mem_name p

/-- The headers under a name that signing sets are those set by signing. -/
theorem filter_headers_generated {name : Text} (hname : name ∈ generatedNames) :
    call.headers.filter (fun h => h.name = name) =
      (generatedHeaders call.host call.opts).filter fun h => h.name = name :=
  CanonicalRequest.filter_headersOf_generated call.name_not_mem_generatedNames hname

theorem filter_headers_host :
    call.headers.filter (fun h => h.name = hostName) = [⟨hostName, call.host⟩] := by
  have htype : contentTypeName ≠ hostName := by decide
  have hmd5 : contentMd5Name ≠ hostName := by decide
  rw [call.filter_headers_generated (by decide), CanonicalRequest.filter_generatedHeaders,
    if_pos rfl, if_neg fun h => htype h.1, if_neg fun h => hmd5 h.1]
  rfl

theorem filter_headers_contentType :
    call.headers.filter (fun h => h.name = contentTypeName) =
      if call.opts.contentType = [] then []
      else [⟨contentTypeName, Text.trim call.opts.contentType⟩] := by
  have hhost : hostName ≠ contentTypeName := by decide
  have hmd5 : contentMd5Name ≠ contentTypeName := by decide
  rw [call.filter_headers_generated (by decide), CanonicalRequest.filter_generatedHeaders,
    if_neg hhost]
  by_cases hnil : call.opts.contentType = []
  · rw [if_pos hnil, if_neg fun h => h.2 hnil, if_neg fun h => hmd5 h.1]
    rfl
  · rw [if_neg hnil, if_pos ⟨rfl, hnil⟩, if_neg fun h => hmd5 h.1]
    rfl

theorem filter_headers_contentMd5 :
    call.headers.filter (fun h => h.name = contentMd5Name) =
      if call.opts.md5 = [] then [] else [⟨contentMd5Name, Text.trim call.opts.md5⟩] := by
  have hhost : hostName ≠ contentMd5Name := by decide
  have htype : contentTypeName ≠ contentMd5Name := by decide
  rw [call.filter_headers_generated (by decide), CanonicalRequest.filter_generatedHeaders,
    if_neg hhost, if_neg fun h => htype h.1]
  by_cases hnil : call.opts.md5 = []
  · rw [if_pos hnil, if_neg fun h => h.2 hnil]
    rfl
  · rw [if_neg hnil, if_pos ⟨rfl, hnil⟩]
    rfl

theorem ascending_headers : Header.Ascending call.headers :=
  CanonicalRequest.ascending_headersOf call.name_not_mem_generatedNames

/-- The headers of an accepted call are in order. -/
theorem headersInOrder : call.request.HeadersInOrder call.host call.opts := by
  constructor
  case ascending =>
    rw [call.map_nameOf_request_headers, List.pairwise_map]
    exact call.ascending_headers
  case distinct =>
    rw [call.map_nameOf_request_headers, List.Nodup, List.pairwise_map]
    exact call.ascending_headers.name_ne
  case host =>
    refine (call.filter_request_headers fun n => decide (n = hostName)).trans ?_
    rw [call.filter_headers_host]
    rfl
  case contentType =>
    refine (call.filter_request_headers fun n => decide (n = contentTypeName)).trans ?_
    rw [call.filter_headers_contentType, apply_ite (List.map Header.line)]
    rfl
  case contentMd5 =>
    refine (call.filter_request_headers fun n => decide (n = contentMd5Name)).trans ?_
    rw [call.filter_headers_contentMd5, apply_ite (List.map Header.line)]
    rfl
  case caller =>
    rw [call.filter_request_headers fun n => decide (n ∉ generatedNames)]
    exact congrArg _ (CanonicalRequest.filter_headersOf_caller call.name_not_mem_generatedNames)
  case signedHeaders =>
    rw [call.map_nameOf_request_headers, call.request_signedHeaders]
    rfl
  case payloadHash =>
    rw [call.request_payloadHash]
    exact CanonicalRequest.payloadHashOf_eq_joined _

end AcceptedCall

namespace CanonicalRequest

/-- Under options that are accepted a request is built, and its headers are in order. -/
theorem build_headersInOrder {now : DateTime} (h : opts.check now = .ok ())
    (storage : StorageSettings) (bucket object : Text) :
    ∃ request, build storage bucket object opts now = .ok request ∧
      request.HeadersInOrder (opts.style.host storage bucket) opts := by
  obtain ⟨call, rfl, rfl, rfl, rfl, rfl⟩ :=
    AcceptedCall.exists_of_check_eq_ok h storage bucket object
  exact ⟨call.request, call.built, call.headersInOrder⟩

/-- Colons in a host and in values move no header, and two headers that announce the body, in
different case, become one. -/
theorem build_headersInOrder_colons :
    let headers := ["Z:3:4".toList, "X-Goog-Content-SHA256: aa".toList, "é:1".toList,
      "x-goog-content-sha256:bb".toList, "a:1:2".toList]
    let opts := { AcceptedCall.bareWith headers with
      contentType := " text/plain ".toList
      md5 := "1B2M2Y8AsgTpgAmY7PhCfg==".toList
      style := .boundHostname "h:8443".toList }
    ∃ request, build ⟨[]⟩ "bucket".toList "object".toList opts AcceptedCall.midnight = .ok request ∧
      (request.headers.map Header.nameOf).Pairwise (fun a b => Text.precedes a b = true) ∧
      request.headers.filter (fun l => Header.nameOf l = "host".toList) =
        ["host:h:8443".toList] ∧
      request.headers.filter (fun l => Header.nameOf l = "content-type".toList) =
        ["content-type:text/plain".toList] ∧
      request.headers.filter (fun l => Header.nameOf l ∉ generatedNames) =
        ["a:1:2".toList, "x-goog-content-sha256:aa,bb".toList, "z:3:4".toList, "é:1".toList] ∧
      request.payloadHash = "aa,bb".toList := by
  intro headers opts
  have hcheck : opts.check AcceptedCall.midnight = .ok () := eq_ok_of_toBool (by decide +kernel)
  obtain ⟨request, hbuilt, horder⟩ :=
    build_headersInOrder hcheck ⟨[]⟩ "bucket".toList "object".toList
  have hsanitized : (Header.sanitize opts.headers).map Header.line =
      ["a:1:2".toList, "x-goog-content-sha256:aa,bb".toList, "z:3:4".toList, "é:1".toList] := by
    decide +kernel
  have hhash : Header.namedValues opts.headers = [("z".toList, "3:4".toList),
      ("x-goog-content-sha256".toList, "aa".toList), ("é".toList, "1".toList),
      ("x-goog-content-sha256".toList, "bb".toList), ("a".toList, "1:2".toList)] := by
    decide +kernel
  have hpayload := horder.payloadHash
  rw [hhash] at hpayload
  exact ⟨request, hbuilt, horder.ascending, horder.host, horder.contentType,
    horder.caller.trans hsanitized, hpayload⟩

end CanonicalRequest

end SignedAccess

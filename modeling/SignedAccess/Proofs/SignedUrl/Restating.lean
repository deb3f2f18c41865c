import Mathlib.Logic.Relation
import SignedAccess.Proofs.SignedUrl.HeaderSpelling
import SignedAccess.Proofs.SignedUrl.SigningCall

/-!
# Calls stated in other ways

One call can be stated in many ways: with another reading of the clock in the same second, with
another reading of the end of validity, with another letter case of the method, with the parameters
in another order and with other spellings of the headers.  However many such changes are made, the
call has the same form (`SameForm`), and so it leaves behind the same URL, log and messages.

    Restated a b → SameForm a.1 b.1                                  (sameForm_of_restated)
    ReflTransGen Restated a b → SameForm a.1 b.1                     (sameForm_of_restatedMany)
-/

namespace SignedAccess

open Relation (ReflTransGen)

namespace Reordered

variable {α : Type} {name? : α → Option Text} {xs ys zs : List α}

theorem refl (xs : List α) : Reordered name? xs xs := ⟨List.Perm.refl xs, fun _ => rfl⟩

theorem trans (h : Reordered name? xs ys) (h' : Reordered name? ys zs) : Reordered name? xs zs :=
  ⟨h.perm.trans h'.perm, fun name => (h.kept name).trans (h'.kept name)⟩

/-- Elements whose names stand once each may be reordered freely. -/
theorem of_perm (h : xs.Perm ys) (hdistinct : (xs.filterMap name?).Nodup) :
    Reordered name? xs ys := by
  refine ⟨h, fun name => ?_⟩
  have hfilter := h.filter fun x => name? x = some name
  have hname : ∀ x ∈ xs.filter (fun x => name? x = some name), name? x = some name :=
    fun x hx => of_decide_eq_true (List.mem_filter.1 hx).2
  have hnodup : ((xs.filter fun x => name? x = some name).filterMap name?).Nodup :=
    hdistinct.sublist (List.filter_sublist.filterMap name?)
  -- at most one element has the name
  cases hxs : xs.filter fun x => name? x = some name with
  | nil =>
    rw [hxs] at hfilter
    exact (List.nil_perm.1 hfilter).symm
  | cons x rest =>
    rw [hxs] at hfilter hname hnodup
    cases rest with
    | nil => exact (List.perm_singleton.1 hfilter.symm).symm
    | cons y rest =>
      have hx := hname x List.mem_cons_self
      have hy := hname y (List.mem_cons_of_mem _ List.mem_cons_self)
      rw [List.filterMap_cons_some hx, List.filterMap_cons_some hy] at hnodup
      exact absurd List.mem_cons_self (List.nodup_cons.1 hnodup).1

end Reordered

namespace DateTime

/-- Readings of one instant have one reading in UTC. -/
theorem utc_eq_of_micros_eq {t u : DateTime} (h : t.micros = u.micros) : t.utc = u.utc := by
  unfold DateTime.utc utc?
  simp only [h]

/-- In UTC there is one reading of an instant. -/
theorem eq_of_micros_eq {t u : DateTime} (ht : t.offset = some 0) (hu : u.offset = some 0)
    (h : t.micros = u.micros) : t = u := by
  rw [micros_of_offset ht, micros_of_offset hu] at h
  exact eq_of_wall_eq (Int.ofNat_inj.1 h) (ht.trans hu.symm)

end DateTime

namespace SignedUrl

/-! ## Changes -/

def parameterName? (p : Text × List Text) : Option Text := some p.1

/-- Options and clocks that state one call: the second come from the first by one change. -/
inductive Restated : SignedUrlOptions × DateTime → SignedUrlOptions × DateTime → Prop
  /-- Another instant of the same second, on any clock. -/
  | clock {opts : SignedUrlOptions} {now now' : DateTime}
      (h : now'.micros / microsPerSecond = now.micros / microsPerSecond) :
      Restated (opts, now) (opts, now')
  /-- The same end of validity, on any clock. -/
  | expires {opts : SignedUrlOptions} {now expires expires' : DateTime}
      (hset : opts.expires = some expires) (h : expires'.micros = expires.micros) :
      Restated (opts, now) ({ opts with expires := some expires' }, now)
  /-- A method with the same upper case. -/
  | method {opts : SignedUrlOptions} {now : DateTime} {method' : Text}
      (h : Text.upper method' = Text.upper opts.method) :
      Restated (opts, now) ({ opts with method := method' }, now)
  /-- The query parameters in another order, those of one name in the order they had. -/
  | parameters {opts : SignedUrlOptions} {now : DateTime} {parameters' : List (Text × List Text)}
      (h : Reordered parameterName? opts.queryParameters parameters') :
      Restated (opts, now) ({ opts with queryParameters := parameters' }, now)
  /-- The headers stated in another way. -/
  | headers {opts : SignedUrlOptions} {now : DateTime} {headers' : List Text}
      (h : Header.Restated opts.headers headers') :
      Restated (opts, now) ({ opts with headers := headers' }, now)

/-! ## Forms -/

/-- What calls with the same canonical form and the same checks agree in. -/
structure SameForm (opts opts' : SignedUrlOptions) : Prop where
  accessId : opts'.accessId = opts.accessId
  privateKey : opts'.privateKey = opts.privateKey
  signBytes : opts'.signBytes = opts.signBytes
  contentType : opts'.contentType = opts.contentType
  md5 : opts'.md5 = opts.md5
  style : opts'.style = opts.style
  insecure : opts'.insecure = opts.insecure
  method : Text.upper opts'.method = Text.upper opts.method
  expires : opts'.expires.map DateTime.micros = opts.expires.map DateTime.micros
  headers : Header.sanitize opts'.headers = Header.sanitize opts.headers
  parameters : Reordered parameterName? opts.queryParameters opts'.queryParameters

namespace SameForm

variable {opts opts' opts'' : SignedUrlOptions} {now : DateTime}

theorem refl (opts : SignedUrlOptions) : SameForm opts opts :=
  ⟨rfl, rfl, rfl, rfl, rfl, rfl, rfl, rfl, rfl, rfl, Reordered.refl _⟩

theorem trans (h : SameForm opts opts') (h' : SameForm opts' opts'') : SameForm opts opts'' where
  accessId := h'.accessId.trans h.accessId
  privateKey := h'.privateKey.trans h.privateKey
  signBytes := h'.signBytes.trans h.signBytes
  contentType := h'.contentType.trans h.contentType
  md5 := h'.md5.trans h.md5
  style := h'.style.trans h.style
  insecure := h'.insecure.trans h.insecure
  method := h'.method.trans h.method
  expires := h'.expires.trans h.expires
  headers := h'.headers.trans h.headers
  parameters := h.parameters.trans h'.parameters

/-- The ends of validity are readings of one instant. -/
theorem exists_expires (h : SameForm opts opts') {expires' : DateTime}
    (hset : opts'.expires = some expires') :
    ∃ expires, opts.expires = some expires ∧ expires.micros = expires'.micros := by
  have hmap := h.expires
  rw [hset, Option.map_some] at hmap
  exact Option.map_eq_some_iff.1 hmap.symm

/-! ## Checks -/

theorem inRange (h : SameForm opts opts') (hrange : opts.InRange now) : opts'.InRange now where
  now_in := hrange.now_in
  cutoff_in := hrange.cutoff_in
  expires_in expires' hset := by
    obtain ⟨expires, hexpires, hmicros⟩ := h.exists_expires hset
    rw [← hmicros]
    exact hrange.expires_in expires hexpires

/-- Options of one form meet the same conditions. -/
theorem meets (h : SameForm opts opts') {reason : OptionReason} (hmeets : opts.Meets now reason) :
    opts'.Meets now reason := by
  unfold SignedUrlOptions.Meets at hmeets ⊢
  cases reason with
  | missingAccessId => simpa only [h.accessId] using hmeets
  | signerRequired => simpa only [h.privateKey, h.signBytes] using hmeets
  | invalidMethod => simpa only [h.method] using hmeets
  | missingExpires =>
    intro hnone
    have hmap := h.expires
    rw [hnone, Option.map_none] at hmap
    exact hmeets (Option.map_eq_none_iff.1 hmap.symm)
  | expiresInPast =>
    intro expires' hset
    obtain ⟨expires, hexpires, hmicros⟩ := h.exists_expires hset
    exact hmicros ▸ hmeets expires hexpires
  | invalidMd5 => simpa only [h.md5] using hmeets
  | invalidMd5Length => simpa only [h.md5] using hmeets
  | expiresTooFar =>
    intro expires' hset
    obtain ⟨expires, hexpires, hmicros⟩ := h.exists_expires hset
    exact hmicros ▸ hmeets expires hexpires
  | reservedQueryParameter => exact fun p hp => hmeets p (h.parameters.perm.mem_iff.2 hp)
  | reservedHeader => simpa only [h.headers] using hmeets

theorem check_eq_ok (h : SameForm opts opts') (hcheck : opts.check now = .ok ()) :
    opts'.check now = .ok () := by
  obtain ⟨hrange, hmeets⟩ := SignedUrlOptions.check_eq_ok_iff.1 hcheck
  exact SignedUrlOptions.check_eq_ok_iff.2 ⟨h.inRange hrange, fun reason => h.meets (hmeets reason)⟩

/-! ## Requests -/

open NameTable (valuesNamed)

theorem valuesNamed_pairsOf (name : Text) (ps : List (Text × List Text)) :
    valuesNamed name (pairsOf ps) =
      (ps.filter fun p => parameterName? p = some name).flatMap Prod.snd := by
  induction ps with
  | nil => rfl
  | cons p ps ih =>
    have hpairs : pairsOf (p :: ps) = p.2.map (fun value => (p.1, value)) ++ pairsOf ps :=
      List.flatMap_cons
    rw [hpairs, NameTable.valuesNamed_append, NameTable.valuesNamed_map, ih]
    by_cases hp : p.1 = name
    · have hsome : parameterName? p = some name := congrArg some hp
      rw [if_pos hp, List.filter_cons_of_pos (by simpa using hsome), List.flatMap_cons]
    · have hsome : parameterName? p ≠ some name := fun heq => hp (Option.some.inj heq)
      rw [if_neg hp, List.filter_cons_of_neg (by simpa using hsome), List.nil_append]

/-- Reordered parameters give one query. -/
theorem encodeQuery_append (h : SameForm opts opts') (generated : List (Text × List Text)) :
    encodeQuery (generated ++ opts'.queryParameters) =
      encodeQuery (generated ++ opts.queryParameters) := by
  have hvalues (name : Text) : valuesNamed name (pairsOf (generated ++ opts'.queryParameters)) =
      valuesNamed name (pairsOf (generated ++ opts.queryParameters)) := by
    rw [pairsOf_append, pairsOf_append, NameTable.valuesNamed_append, NameTable.valuesNamed_append,
      valuesNamed_pairsOf name opts.queryParameters, h.parameters.kept, ← valuesNamed_pairsOf]
  unfold encodeQuery
  rw [NameTable.ofPairs_eq_of_valuesNamed_eq hvalues]

theorem headersOf_eq (h : SameForm opts opts') (host : Text) :
    CanonicalRequest.headersOf host opts' = CanonicalRequest.headersOf host opts := by
  unfold CanonicalRequest.headersOf
  rw [h.headers, h.contentType, h.md5]

theorem payloadHashOf_eq (h : SameForm opts opts') :
    CanonicalRequest.payloadHashOf opts'.headers = CanonicalRequest.payloadHashOf opts.headers := by
  unfold CanonicalRequest.payloadHashOf
  rw [h.headers]

/-- Options of one form give one request. -/
theorem build_eq (h : SameForm opts opts') (storage : StorageSettings) (bucket object : Text)
    (now : DateTime) : CanonicalRequest.build storage bucket object opts' now =
      CanonicalRequest.build storage bucket object opts now := by
  have hrequest (host : Text) (n e : DateTime) :
      CanonicalRequest.ofUtc host bucket object opts' n e =
        CanonicalRequest.ofUtc host bucket object opts n e := by
    unfold CanonicalRequest.ofUtc
    simp only [h.headersOf_eq, h.encodeQuery_append, h.payloadHashOf_eq, h.method, h.style,
      h.accessId]
  unfold CanonicalRequest.build
  cases hset : opts'.expires with
  | none =>
    have hmap := h.expires
    rw [hset, Option.map_none] at hmap
    rw [Option.map_eq_none_iff.1 hmap.symm]
  | some expires' =>
    obtain ⟨expires, hexpires, hmicros⟩ := h.exists_expires hset
    rw [hexpires]
    simp only [hrequest, h.style, DateTime.utc_eq_of_micros_eq hmicros]

theorem signer_eq (h : SameForm opts opts') : opts'.signer = opts.signer := by
  unfold SignedUrlOptions.signer
  rw [h.signBytes, h.privateKey]

theorem sign_eq (h : SameForm opts opts') (bucket object : Text) (request : CanonicalRequest)
    (signer : Signer) :
    sign bucket object opts' request signer = sign bucket object opts request signer := by
  unfold sign created
  rw [h.insecure, h.accessId]

end SameForm

/-! ## Calls -/

variable {storage : StorageSettings} {bucket object url : Text} {opts opts' : SignedUrlOptions}
  {clock clock' now : DateTime}

/-- The time of signing hangs on the second of the clock alone. -/
theorem signingTime_eq_ok
    (hsecond : clock'.micros / microsPerSecond = clock.micros / microsPerSecond)
    (hnow : signingTime clock = .ok now) : signingTime clock' = .ok now := by
  obtain ⟨hin, hoffset, hmicros⟩ := of_signingTime_eq_ok hnow
  have hin' : InCalendar clock'.micros := by
    unfold InCalendar clockSpan microsPerDay at hin ⊢
    unfold microsPerSecond at hin hsecond ⊢
    omega
  obtain ⟨now', hnow'⟩ := exists_signingTime hin'
  obtain ⟨-, hoffset', hmicros'⟩ := of_signingTime_eq_ok hnow'
  have heq : now'.micros = now.micros := by
    unfold microsPerSecond at hsecond hmicros hmicros'
    omega
  rw [hnow', DateTime.eq_of_micros_eq hoffset' hoffset heq]

/-- Options of one form at times of one second give one call. -/
theorem create_eq_of_sameForm (h : SameForm opts opts')
    (hsecond : clock'.micros / microsPerSecond = clock.micros / microsPerSecond)
    (hurl : (create storage bucket object opts clock).result = .ok url) :
    create storage bucket object opts' clock' = create storage bucket object opts clock := by
  obtain ⟨request, signer, -, hprepare, -⟩ := exists_signature_of_create hurl
  obtain ⟨now, hnow, hcheck, hbuilt, hsigner⟩ := prepare_eq_ok_iff.1 hprepare
  have hprepare' : prepare storage bucket object opts' clock' = .ok (request, signer) := by
    refine prepare_eq_ok_iff.2 ⟨now, signingTime_eq_ok hsecond hnow, h.check_eq_ok hcheck, ?_, ?_⟩
    · rw [h.build_eq, hbuilt]
    · rw [h.signer_eq, hsigner]
  rw [create_of_prepare_eq_ok hprepare', create_of_prepare_eq_ok hprepare, h.sign_eq]

/-- A change leaves the form and the second as they are. -/
theorem sameForm_of_restated {a b : SignedUrlOptions × DateTime} (h : Restated a b) :
    SameForm a.1 b.1 ∧ b.2.micros / microsPerSecond = a.2.micros / microsPerSecond := by
  cases h with
  | clock h => exact ⟨SameForm.refl _, h⟩
  | expires hset h =>
    refine ⟨{ SameForm.refl _ with expires := ?_ }, rfl⟩
    rw [hset, Option.map_some, Option.map_some, h]
  | method h => exact ⟨{ SameForm.refl _ with method := h }, rfl⟩
  | parameters h => exact ⟨{ SameForm.refl _ with parameters := h }, rfl⟩
  | headers h => exact ⟨{ SameForm.refl _ with headers := Header.sanitize_restated h }, rfl⟩

/-- However many changes are made, form and second stay. -/
theorem sameForm_of_restatedMany {a b : SignedUrlOptions × DateTime}
    (h : ReflTransGen Restated a b) :
    SameForm a.1 b.1 ∧ b.2.micros / microsPerSecond = a.2.micros / microsPerSecond := by
  induction h with
  | refl => exact ⟨SameForm.refl _, rfl⟩
  | tail _ hstep ih =>
    obtain ⟨hform, hsecond⟩ := sameForm_of_restated hstep
    exact ⟨ih.1.trans hform, hsecond.trans ih.2⟩

/-- A call that gives a URL leaves behind the same URL, the same log and the same messages in
whatever way it is stated. -/
theorem create_eq_of_restatedMany
    (h : ReflTransGen Restated (opts, clock) (opts', clock'))
    (hurl : (create storage bucket object opts clock).result = .ok url) :
    create storage bucket object opts' clock' = create storage bucket object opts clock := by
  obtain ⟨hform, hsecond⟩ := sameForm_of_restatedMany h
  exact create_eq_of_sameForm hform hsecond hurl

/-- Another reading of the clock, a naive end of validity, another order of parameters and headers,
a spelling of its own and an entry without a colon make no difference. -/
theorem create_eq_of_restatedMany_mixed :
    let clock : DateTime :=
      ⟨DateTime.epoch + 330 * 60 * microsPerSecond + 999999, some (330 * microsPerMinute),
        by decide⟩
    let opts := { AcceptedCall.bareWith ["x-meta:one two".toList, "a:1".toList] with
      queryParameters := [("v".toList, ["2".toList, "1".toList]), ("u".toList, [[]])] }
    let opts' := { AcceptedCall.bareWith
        ["a:1".toList, "no colon".toList, "X-Meta\t: one  two".toList] with
      method := "Get".toList
      expires := some ⟨DateTime.epoch + 60 * microsPerSecond, none, by decide⟩
      queryParameters := [("u".toList, [[]]), ("v".toList, ["2".toList, "1".toList])] }
    ∃ url,
      (create ⟨[]⟩ "bucket".toList "object".toList opts AcceptedCall.midnight).result = .ok url ∧
      (create ⟨[]⟩ "bucket".toList "object".toList opts' clock).result = .ok url := by
  intro clock opts opts'
  obtain ⟨url, hurl⟩ := exists_eq_ok_of_toBool
    (x := (create ⟨[]⟩ "bucket".toList "object".toList opts AcceptedCall.midnight).result)
    (by decide +kernel)
  have hclock : Restated (opts, AcceptedCall.midnight) (opts, clock) := .clock (by decide)
  have hexpires : Restated (opts, clock) ({ opts with expires := opts'.expires }, clock) :=
    .expires rfl (by decide)
  have hmethod : Restated ({ opts with expires := opts'.expires }, clock)
      ({ opts with expires := opts'.expires, method := opts'.method }, clock) :=
    .method (by decide)
  have hparameters :
      Restated ({ opts with expires := opts'.expires, method := opts'.method }, clock)
        ({ opts' with headers := opts.headers }, clock) :=
    .parameters (Reordered.of_perm (List.Perm.swap _ _ _) (by decide))
  have hheaders {headers headers' : List Text} (h : Header.Restated headers headers') :
      Restated ({ opts' with headers := headers }, clock)
        ({ opts' with headers := headers' }, clock) := .headers h
  have hcase : Header.Restated ["x-meta:one two".toList, "a:1".toList]
      ["X-Meta:one two".toList, "a:1".toList] :=
    .respelled [] _ (@Header.Respelled.letterCase "x-meta".toList "X-Meta".toList _ (by decide)
      (by decide))
  have hrun : Header.Restated ["X-Meta:one two".toList, "a:1".toList]
      ["X-Meta:one  two".toList, "a:1".toList] :=
    .respelled [] _ (@Header.Respelled.longerRun "X-Meta".toList ' ' "one".toList "two".toList
      (by decide) (Or.inl rfl))
  have hname : Header.Restated ["X-Meta:one  two".toList, "a:1".toList]
      ["X-Meta\t:one  two".toList, "a:1".toList] :=
    .respelled [] _ (@Header.Respelled.aroundName [] "X-Meta".toList "\t".toList _ (by decide)
      (by decide) (by decide))
  have hvalue : Header.Restated ["X-Meta\t:one  two".toList, "a:1".toList]
      ["X-Meta\t: one  two".toList, "a:1".toList] :=
    .respelled [] _ (@Header.Respelled.aroundValue "X-Meta\t".toList " ".toList [] _ (by decide)
      (by decide) (by decide))
  have horder : Header.Restated ["X-Meta\t: one  two".toList, "a:1".toList]
      ["a:1".toList, "X-Meta\t: one  two".toList] :=
    .reordered (Reordered.of_perm (List.Perm.swap _ _ _) (by decide))
  have hinsert : Header.Restated ["a:1".toList, "X-Meta\t: one  two".toList]
      ["a:1".toList, "no colon".toList, "X-Meta\t: one  two".toList] :=
    .inserted ["a:1".toList] _ (Or.inl (by decide))
  have hmany : ReflTransGen Restated (opts, AcceptedCall.midnight) (opts', clock) :=
    ReflTransGen.refl |>.tail hclock |>.tail hexpires |>.tail hmethod |>.tail hparameters
      |>.tail (hheaders hcase) |>.tail (hheaders hrun) |>.tail (hheaders hname)
      |>.tail (hheaders hvalue) |>.tail (hheaders horder) |>.tail (hheaders hinsert)
  refine ⟨url, hurl, ?_⟩
  rw [create_eq_of_restatedMany hmany hurl, hurl]

end SignedUrl

end SignedAccess

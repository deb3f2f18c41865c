import SignedAccess.Proofs.SignedUrl.SigningCall

/-!
# What stands in the query of a signed URL

The query of a signed URL is found behind its last question mark, whatever the host and the object:
neither path nor query holds one.  Its pairs are those set by signing and those of the caller,
sorted by name, and last the signature.  No caller can bring in a name that is set by signing, so
that each of these names has one value.

    queryPairs? (request.url insecure signature) = some (pairs ++ [signature])   (queryPairs?_url)
-/

namespace SignedAccess

open NameTable (valuesNamed)
open CanonicalRequest (generatedKeys generatedParameters signatureKey)

namespace SignedUrl

/-! ## Algorithm -/

/-- The query of a URL: what stands behind its last question mark. -/
def queryOf? (url : Text) : Option Text := (Text.cutAtLast? ['?'] url).map Prod.snd

/-- The named values in the query of a URL, in the order in which they stand. -/
def queryPairs? (url : Text) : Option (List (Text × Text)) := queryOf? url >>= readQuery?

/-- The day that a stamp shows: what stands before the time of day, without its dashes. -/
def dayOf (stamp : Text) : Text := (Text.before 'T' stamp).filter (· ≠ '-')

def generatedPairs (accessId stamp names : Text) (seconds : Int) : List (Text × Text) :=
  [("X-Goog-Algorithm".toList, "GOOG4-RSA-SHA256".toList),
   ("X-Goog-Credential".toList,
    accessId ++ '/' :: (dayOf stamp ++ "/auto/storage/goog4_request".toList)),
   ("X-Goog-Date".toList, stamp), ("X-Goog-Expires".toList, Decimal.ofInt seconds),
   ("X-Goog-SignedHeaders".toList, names)]

/-- Whether the query of a URL holds values that signing sets and those of the caller, sorted by
name, and behind them a signature. -/
structure HasQuery (url : Text) (generated ps : List (Text × Text)) (opts : SignedUrlOptions)
    (signature : Bytes) : Prop where
  pairs : queryPairs? url = some (ps ++ [("X-Goog-Signature".toList, Hex.encode signature)])
  sorted : NameTable.SortedFrom ps (generated ++ pairsOf opts.queryParameters)
  /-- Every value that signing sets is the only one of its name. -/
  alone : ∀ p ∈ generated, valuesNamed p.1 ps = [p.2]
  /-- No name of the caller is one that signing sets, in any case of its letters. -/
  distinct : ∀ p ∈ opts.queryParameters, ∀ key ∈ generatedKeys,
    p.1.map Char.toLower ≠ key.map Char.toLower

/-! ## Pairs set by signing -/

theorem pairsOf_generatedParameters (accessId names : Text) (now : DateTime) (seconds : Int) :
    pairsOf (generatedParameters accessId names now seconds) =
      generatedPairs accessId now.stamp names seconds := by
  have hscope : CanonicalRequest.scope now =
      dayOf now.stamp ++ "/auto/storage/goog4_request".toList := by
    unfold CanonicalRequest.scope
    rw [DateTime.dayStamp_eq]
    rfl
  unfold generatedParameters
  rw [hscope]
  rfl

theorem mem_generatedKeys_of_mem {accessId stamp names : Text} {seconds : Int} {p : Text × Text}
    (hp : p ∈ generatedPairs accessId stamp names seconds) : p.1 ∈ generatedKeys := by
  have hkeys : (generatedPairs accessId stamp names seconds).map Prod.fst =
      generatedKeys.dropLast := rfl
  have hmem : p.1 ∈ generatedKeys.dropLast := hkeys ▸ List.mem_map_of_mem hp
  exact (List.dropLast_sublist _).subset hmem

/-- Signing sets one value under each name. -/
theorem valuesNamed_generatedPairs {accessId stamp names : Text} {seconds : Int}
    {p : Text × Text} (hp : p ∈ generatedPairs accessId stamp names seconds) :
    valuesNamed p.1 (generatedPairs accessId stamp names seconds) = [p.2] := by
  simp only [generatedPairs, List.mem_cons, List.not_mem_nil, or_false] at hp
  rcases hp with rfl | rfl | rfl | rfl | rfl
  · rfl
  · rfl
  · rfl
  · rfl
  · rfl

/-! ## Pairs of the caller -/

/-- A name that is set by signing, in any case of its letters, is reserved. -/
theorem isReserved_of_map_toLower_eq {p : Text × List Text} {key : Text}
    (hkey : key ∈ generatedKeys) (h : p.1.map Char.toLower = key.map Char.toLower) :
    SignedUrlOptions.IsReserved p :=
  ⟨key, hkey, Text.lower_eq_of_map_toLower_eq h⟩

end SignedUrl

namespace AcceptedCall

open SignedUrl (encodePath encodePairs encodeQuery pairsOf queryOf? queryPairs? generatedPairs
  readQuery?)

/-! ## The query of a call -/

def pairs (call : AcceptedCall) : List (Text × Text) :=
  (NameTable.ofPairs (pairsOf call.parameters)).pairs

variable {call : AcceptedCall}

theorem pairsOf_parameters (call : AcceptedCall) : pairsOf call.parameters =
    generatedPairs call.opts.accessId call.now.stamp call.request.signedHeaders call.lifetime ++
      pairsOf call.opts.queryParameters := by
  unfold parameters
  rw [SignedUrl.pairsOf_append, SignedUrl.pairsOf_generatedParameters]

theorem sortedFrom_pairs (call : AcceptedCall) : NameTable.SortedFrom call.pairs
    (generatedPairs call.opts.accessId call.now.stamp call.request.signedHeaders call.lifetime ++
      pairsOf call.opts.queryParameters) := by
  rw [← pairsOf_parameters]
  exact NameTable.sortedFrom_pairs_ofPairs _

/-- The values that signing sets stand alone under their names. -/
theorem valuesNamed_pairs_of_mem {p : Text × Text}
    (hp : p ∈ generatedPairs call.opts.accessId call.now.stamp call.request.signedHeaders
      call.lifetime) : valuesNamed p.1 call.pairs = [p.2] := by
  rw [call.sortedFrom_pairs.values, NameTable.valuesNamed_append,
    SignedUrl.valuesNamed_generatedPairs hp,
    call.valuesNamed_caller_eq_nil (SignedUrl.mem_generatedKeys_of_mem hp), List.append_nil]

theorem pairs_ne_nil (call : AcceptedCall) : call.pairs ≠ [] := by
  intro h
  have hperm := call.sortedFrom_pairs.perm
  rw [h] at hperm
  cases List.nil_perm.1 hperm

/-- The URL of a call is made of scheme, host and path, and of the pairs of its query. -/
theorem url_eq (h : call.AtSigningTime) (insecure : Bool) (signature : Bytes) :
    call.request.url insecure signature =
      (if insecure then "http".toList else "https".toList) ++ "://".toList ++ call.host ++
        call.request.path ++
        '?' :: encodePairs (call.pairs ++ [(signatureKey, Hex.encode signature)]) := by
  have hsignature : encodePairs [(signatureKey, Hex.encode signature)] =
      signatureKey ++ '=' :: Hex.encode signature := by
    have hkey : SignedUrl.encodePart signatureKey = signatureKey := by decide
    have hhex := SignedUrl.encodePart_of_unreserved (t := Hex.encode signature)
      fun _ hc => SignedUrl.isUnreserved_of_mem_hex hc
    show Text.joined ['&'] [SignedUrl.encodePair (signatureKey, Hex.encode signature)] = _
    unfold SignedUrl.encodePair
    rw [hkey, hhex]
    exact List.intercalate_singleton
  have hquery : call.request.query = encodePairs call.pairs := query_of_atSigningTime h
  -- the signature is written without escapes, as a pair behind the others
  rw [SignedUrl.encodePairs_append call.pairs_ne_nil (List.cons_ne_nil _ _), hsignature, ← hquery]
  unfold CanonicalRequest.url
  rw [call.request_host]
  simp only [List.append_assoc, List.cons_append]

theorem question_not_mem_encodePairs (ps : List (Text × Text)) : '?' ∉ encodePairs ps :=
  SignedUrl.not_mem_encodePairs rfl (by decide) (by decide) (by decide) ps

theorem question_not_mem_path (call : AcceptedCall) : '?' ∉ call.request.path := by
  rw [call.request_path, List.mem_cons, not_or]
  exact ⟨by decide, SignedUrl.not_mem_encodePath rfl (by decide) _⟩

/-- The query of the URL of a call stands behind its last question mark. -/
theorem queryOf?_url (h : call.AtSigningTime) (insecure : Bool) (signature : Bytes) :
    queryOf? (call.request.url insecure signature) =
      some (encodePairs (call.pairs ++ [(signatureKey, Hex.encode signature)])) := by
  have hcut := Text.cutAtLast?_append (s := []) (a := (if insecure then "http".toList
    else "https".toList) ++ "://".toList ++ call.host ++ call.request.path) List.not_mem_nil
    (question_not_mem_encodePairs (call.pairs ++ [(signatureKey, Hex.encode signature)]))
  rw [List.append_assoc, List.singleton_append] at hcut
  unfold queryOf?
  rw [url_eq h, hcut]
  rfl

/-- It stands behind the first question mark if the host has none. -/
theorem cut?_url (h : call.AtSigningTime) (insecure : Bool) (signature : Bytes)
    (hhost : '?' ∉ call.host) :
    (Text.cut? '?' (call.request.url insecure signature)).map Prod.snd =
      queryOf? (call.request.url insecure signature) := by
  have hscheme : '?' ∉ (if insecure then "http".toList else "https".toList) := by
    cases insecure <;> decide
  have hfront : '?' ∉ (if insecure then "http".toList else "https".toList) ++ "://".toList ++
      call.host ++ call.request.path := by
    simp only [List.mem_append, not_or]
    exact ⟨⟨⟨hscheme, by decide⟩, hhost⟩, call.question_not_mem_path⟩
  rw [queryOf?_url h, (Text.cut?_eq_some_iff _ _ _ _).2 ⟨url_eq h insecure signature, hfront⟩]
  rfl

theorem queryPairs?_url (h : call.AtSigningTime) (insecure : Bool) (signature : Bytes) :
    queryPairs? (call.request.url insecure signature) =
      some (call.pairs ++ [(signatureKey, Hex.encode signature)]) := by
  unfold queryPairs?
  rw [queryOf?_url h, Option.bind_eq_bind, Option.bind_some, SignedUrl.readQuery?_encodePairs]

/-- The query of the URL of a call holds what signing sets and what the caller gives. -/
theorem hasQuery (h : call.AtSigningTime) (insecure : Bool) (signature : Bytes) :
    SignedUrl.HasQuery (call.request.url insecure signature)
      (generatedPairs call.opts.accessId call.now.stamp call.request.signedHeaders call.lifetime)
      call.pairs call.opts signature where
  pairs := queryPairs?_url h insecure signature
  sorted := call.sortedFrom_pairs
  alone _ hp := valuesNamed_pairs_of_mem hp
  distinct p hp _ hkey heq := call.meets .reservedQueryParameter p hp
    (SignedUrl.isReserved_of_map_toLower_eq hkey heq)

end AcceptedCall

namespace SignedUrl

variable {storage : StorageSettings} {bucket object url : Text} {opts : SignedUrlOptions}
  {clock : DateTime}

/-! ## Calls -/

/-- Whenever a URL is given, its query holds just the values that signing sets for the time of
signing, account, lifetime and headers, those of the caller, and the signature. -/
theorem create_hasQuery (h : (create storage bucket object opts clock).result = .ok url) :
    ∃ now expires request signer signature ps,
      signingTime clock = .ok now ∧ opts.expires = some expires ∧
      prepare storage bucket object opts clock = .ok (request, signer) ∧
      signer.sign (Utf8.encode request.stringToSign) = .ok signature ∧
      HasQuery url (generatedPairs opts.accessId now.stamp request.signedHeaders
        (CanonicalRequest.lifetime expires now)) ps opts signature ∧
      ('?' ∉ opts.style.host storage bucket →
        (Text.cut? '?' url).map Prod.snd = queryOf? url) := by
  obtain ⟨request, signer, signature, hprepare, hsign, -, rfl⟩ := exists_signature_of_create h
  obtain ⟨call, hnow, rfl, rfl, rfl, rfl, rfl⟩ := exists_call_at_of_prepare hprepare
  have htime : call.AtSigningTime := ⟨clock, hnow⟩
  exact ⟨call.now, call.expires, call.request, signer, signature, call.pairs, hnow,
    call.opts_expires, hprepare, hsign, AcceptedCall.hasQuery htime _ signature,
    AcceptedCall.cut?_url htime _ signature⟩

/-- Two values of one name keep their order, behind the values that signing sets and in front of a
name that is written with escapes. -/
theorem create_hasQuery_two_values :
    let opts := { AcceptedCall.bareWith [] with queryParameters :=
      [("É&=".toList, ["+ %".toList]), ("v".toList, ["2".toList, "1".toList])] }
    ∃ url ps signature,
      (create ⟨[]⟩ "bucket".toList "a?b".toList opts AcceptedCall.midnight).result = .ok url ∧
      queryPairs? url = some (ps ++ [("X-Goog-Signature".toList, Hex.encode signature)]) ∧
      valuesNamed "X-Goog-Date".toList ps = ["1970-01-01T00:00:00Z".toList] ∧
      valuesNamed "X-Goog-Credential".toList ps =
        [opts.accessId ++ "/19700101/auto/storage/goog4_request".toList] ∧
      valuesNamed "v".toList ps = ["2".toList, "1".toList] ∧
      valuesNamed "É&=".toList ps = ["+ %".toList] ∧
      (Text.cut? '?' url).map Prod.snd = queryOf? url := by
  intro opts
  obtain ⟨url, hurl⟩ := exists_eq_ok_of_toBool
    (x := (create ⟨[]⟩ "bucket".toList "a?b".toList opts AcceptedCall.midnight).result)
    (by decide +kernel)
  obtain ⟨now, _, _, _, signature, ps, hnow, -, -, -, hquery, hfirst⟩ := create_hasQuery hurl
  have hstamp : now.stamp = "1970-01-01T00:00:00Z".toList := by
    rw [show now = AcceptedCall.midnight from (Except.ok.inj hnow).symm]
    decide +kernel
  have hdate := hquery.alone _ (List.mem_cons_of_mem _ (List.mem_cons_of_mem _ List.mem_cons_self))
  have hcredential := hquery.alone _ (List.mem_cons_of_mem _ List.mem_cons_self)
  rw [hstamp] at hdate hcredential
  exact ⟨url, ps, signature, hurl, hquery.pairs, hdate, hcredential,
    hquery.sorted.values "v".toList, hquery.sorted.values "É&=".toList, hfirst (by decide)⟩

end SignedUrl

end SignedAccess

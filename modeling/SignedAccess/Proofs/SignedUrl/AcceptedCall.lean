import SignedAccess.Proofs.SignedUrl.Acceptance
import SignedAccess.Proofs.SignedUrl.NameTable
import SignedAccess.SignedUrl.Signing

/-!
# Accepted calls

A call for a signed URL whose options are accepted, with the request that is built for it.  The
request always has the form `CanonicalRequest.ofUtc` (`request_eq`), at the times of the call
read in UTC.
-/

namespace SignedAccess

/-- A call whose options are accepted, and the request that is built for it. -/
structure AcceptedCall where
  storage : StorageSettings
  bucket : Text
  object : Text
  opts : SignedUrlOptions
  /-- The time at which the options are checked and the request is built. -/
  now : DateTime
  request : CanonicalRequest
  accepted : opts.check now = .ok ()
  built : CanonicalRequest.build storage bucket object opts now = .ok request

namespace SignedUrlOptions

variable {opts : SignedUrlOptions} {now : DateTime}

/-- While options are accepted, no instant leaves the calendar. -/
theorem inRange_of_check_eq_ok (h : opts.check now = .ok ()) : opts.InRange now := by
  unfold check at h
  obtain ⟨-, -, h⟩ := bind_eq_ok_iff.1 h
  obtain ⟨-, -, h⟩ := bind_eq_ok_iff.1 h
  obtain ⟨-, -, h⟩ := bind_eq_ok_iff.1 h
  cases hexpires : opts.expires with
  | none => rw [hexpires] at h; cases h
  | some expires =>
    rw [hexpires] at h
    obtain ⟨n, hn, h⟩ := bind_eq_ok_iff.1 h
    obtain ⟨e, he, h⟩ := bind_eq_ok_iff.1 h
    unfold checkFrom at h
    obtain ⟨-, -, h⟩ := bind_eq_ok_iff.1 h
    obtain ⟨-, -, h⟩ := bind_eq_ok_iff.1 h
    obtain ⟨cutoff, hcutoff, -⟩ := bind_eq_ok_iff.1 h
    obtain ⟨hin, -, hoffset⟩ := DateTime.utc_eq_ok_iff.1 hn
    have hlater := (DateTime.later_eq_ok_iff hoffset).1 hcutoff
    rw [DateTime.micros_of_utc hn] at hlater
    refine ⟨hin, hlater.1, fun expires' h' => ?_⟩
    rw [hexpires] at h'
    cases h'
    exact (DateTime.utc_eq_ok_iff.1 he).1

theorem meets_of_check_eq_ok (h : opts.check now = .ok ()) (reason : OptionReason) :
    opts.Meets now reason :=
  meets_of_settles (settles_check (inRange_of_check_eq_ok h)) h reason

/-- Options are accepted just when all instants lie within the calendar and all conditions are
met. -/
theorem check_eq_ok_iff :
    opts.check now = .ok () ↔ opts.InRange now ∧ ∀ reason, opts.Meets now reason := by
  constructor
  · exact fun h => ⟨inRange_of_check_eq_ok h, meets_of_check_eq_ok h⟩
  · rintro ⟨hrange, hmeets⟩
    exact (eq_ok_iff_of_settles (settles_check hrange)).2 hmeets

end SignedUrlOptions

namespace AcceptedCall

/-- A request is built for every object under options that are accepted. -/
theorem exists_of_check_eq_ok {opts : SignedUrlOptions} {now : DateTime}
    (h : opts.check now = .ok ()) (storage : StorageSettings) (bucket object : Text) :
    ∃ call : AcceptedCall, call.storage = storage ∧ call.bucket = bucket ∧
      call.object = object ∧ call.opts = opts ∧ call.now = now := by
  have hrange := SignedUrlOptions.inRange_of_check_eq_ok h
  have hset : opts.expires ≠ none := SignedUrlOptions.meets_of_check_eq_ok h .missingExpires
  obtain ⟨expires, hexpires⟩ := Option.ne_none_iff_exists'.1 hset
  obtain ⟨n, hn, -⟩ := DateTime.exists_utc hrange.now_in
  obtain ⟨e, he, -⟩ := DateTime.exists_utc (hrange.expires_in expires hexpires)
  have hbuilt : CanonicalRequest.build storage bucket object opts now =
      .ok (CanonicalRequest.ofUtc (opts.style.host storage bucket) bucket object opts n e) := by
    unfold CanonicalRequest.build
    rw [hexpires]
    simp only [hn, he]
    rfl
  exact ⟨⟨storage, bucket, object, opts, now, _, h, hbuilt⟩, rfl, rfl, rfl, rfl, rfl⟩

open NameTable (valuesNamed)
open SignedUrl (encodePath encodeQuery pairsOf)
open CanonicalRequest (generatedKeys generatedParameters scope)

variable (call : AcceptedCall)

def host : Text := call.opts.style.host call.storage call.bucket

/-- The path of the object, not encoded. -/
def resourcePath : Text := call.opts.style.resourcePath call.bucket call.object

def headers : List Header := CanonicalRequest.headersOf call.host call.opts

theorem meets (reason : OptionReason) : call.opts.Meets call.now reason :=
  SignedUrlOptions.meets_of_check_eq_ok call.accepted reason

theorem expires_isSome : call.opts.expires.isSome = true :=
  Option.isSome_iff_ne_none.2 (call.meets .missingExpires)

def expires : DateTime := call.opts.expires.get call.expires_isSome

theorem opts_expires : call.opts.expires = some call.expires :=
  (Option.some_get call.expires_isSome).symm

/-- Whole seconds from the time of the call to the end of validity. -/
def lifetime : Int := CanonicalRequest.lifetime call.expires call.now

/-- The request of an accepted call is built from the times of the call in UTC. -/
theorem request_eq : ∃ n e, call.now.utc = .ok n ∧ call.expires.utc = .ok e ∧
    call.request = CanonicalRequest.ofUtc call.host call.bucket call.object call.opts n e := by
  have hbuilt := call.built
  unfold CanonicalRequest.build at hbuilt
  rw [call.opts_expires] at hbuilt
  obtain ⟨n, hn, hbuilt⟩ := bind_eq_ok_iff.1 hbuilt
  obtain ⟨e, he, hbuilt⟩ := bind_eq_ok_iff.1 hbuilt
  exact ⟨n, e, hn, he, (Except.ok.inj hbuilt).symm⟩

theorem request_method : call.request.method = Text.upper call.opts.method := by
  obtain ⟨_, _, -, -, h⟩ := call.request_eq
  rw [h]
  rfl

theorem request_path : call.request.path = '/' :: encodePath call.resourcePath := by
  obtain ⟨_, _, -, -, h⟩ := call.request_eq
  rw [h]
  rfl

theorem request_headers : call.request.headers = call.headers.map Header.line := by
  obtain ⟨_, _, -, -, h⟩ := call.request_eq
  rw [h]
  rfl

theorem request_signedHeaders :
    call.request.signedHeaders = CanonicalRequest.namesOf call.headers := by
  obtain ⟨_, _, -, -, h⟩ := call.request_eq
  rw [h]
  rfl

theorem request_payloadHash :
    call.request.payloadHash = CanonicalRequest.payloadHashOf call.opts.headers := by
  obtain ⟨_, _, -, -, h⟩ := call.request_eq
  rw [h]
  rfl

theorem request_host : call.request.host = call.host := by
  obtain ⟨_, _, -, -, h⟩ := call.request_eq
  rw [h]
  rfl

/-! ## The query -/

/-- The query names the lifetime of the call and the time of the call in UTC. -/
theorem request_query : ∃ n, call.now.utc = .ok n ∧
    call.request.timestamp = n.stamp ∧ call.request.credentialScope = scope n ∧
    call.request.query = encodeQuery (generatedParameters call.opts.accessId
      call.request.signedHeaders n call.lifetime ++ call.opts.queryParameters) := by
  obtain ⟨n, e, hn, he, h⟩ := call.request_eq
  have hlifetime : CanonicalRequest.lifetime e n = call.lifetime := by
    unfold lifetime CanonicalRequest.lifetime
    rw [DateTime.micros_of_utc hn, DateTime.micros_of_utc he]
  rw [h]
  refine ⟨n, hn, rfl, rfl, ?_⟩
  rw [← hlifetime]
  rfl

/-- The caller gives no value to a name that is set by signing. -/
theorem valuesNamed_caller_eq_nil {name : Text} (hname : name ∈ generatedKeys) :
    valuesNamed name (pairsOf call.opts.queryParameters) = [] := by
  refine NameTable.valuesNamed_eq_nil fun p hp heq => ?_
  obtain ⟨entry, hentry, hmem⟩ := List.mem_flatMap.1 hp
  obtain ⟨value, -, rfl⟩ := List.mem_map.1 hmem
  refine call.meets .reservedQueryParameter entry hentry ⟨name, hname, ?_⟩
  rw [← heq]

/-- Signing gives values to no other names. -/
theorem valuesNamed_generated_eq_nil {name accessId names : Text} {n : DateTime} {seconds : Int}
    (hname : name ∉ generatedKeys) :
    valuesNamed name (pairsOf (generatedParameters accessId names n seconds)) = [] := by
  refine NameTable.valuesNamed_eq_nil fun p hp heq => hname ?_
  simp only [generatedParameters, pairsOf, List.flatMap_cons, List.flatMap_nil, List.map_cons,
    List.map_nil, List.singleton_append, List.mem_cons, List.not_mem_nil, or_false] at hp
  rw [← heq]
  rcases hp with rfl | rfl | rfl | rfl | rfl <;> simp [generatedKeys]

/-! ## Calls with bare options -/

def midnight : DateTime := DateTime.inUtc DateTime.epoch (by decide)

/-- One minute after midnight. -/
def minuteAfter : DateTime := DateTime.inUtc (DateTime.epoch + 60 * microsPerSecond) (by decide)

def bareWith (headers : List Text) : SignedUrlOptions :=
  { SignedUrlOptions.bare "get".toList minuteAfter with headers := headers }

/-- The call at midnight for an object under bare options with headers. -/
def atMidnight (bucket object : Text) (headers : List Text)
    (h : (bareWith headers).check midnight = .ok ()) : AcceptedCall where
  storage := ⟨[]⟩
  bucket := bucket
  object := object
  opts := bareWith headers
  now := midnight
  request := CanonicalRequest.ofUtc storageHostDefault bucket object (bareWith headers) midnight
    minuteAfter
  accepted := h
  built := rfl

end AcceptedCall

end SignedAccess

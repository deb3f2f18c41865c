import SignedAccess.Proofs.SignedUrl.QueryContent
import SignedAccess.Proofs.Time.WholeSeconds

/-!
# How long a signed URL is valid

The end of validity is checked to the microsecond: it comes at least a second after the time of
signing and before seven days and a second are over.  The lifetime is counted in seconds, divided in
double precision and cut off.  For all that is accepted, the count is exact.

    Lasts call.lifetime call.now call.expires                        (AcceptedCall.lasts_lifetime)
-/

namespace SignedAccess

open NameTable (valuesNamed)

/-- Whether a lifetime in seconds, counted from a time of signing, is within the limits and ends in
the last second up to the end of validity. -/
structure Lasts (seconds : Int) (now expires : DateTime) : Prop where
  one_le : 1 ≤ seconds
  le_week : seconds ≤ 604800
  ends : now.micros + seconds * microsPerSecond ≤ expires.micros
  fits : expires.micros < now.micros + seconds * microsPerSecond + microsPerSecond

namespace AcceptedCall

/-- What is left of the validity of a call to the microsecond. -/
theorem remaining_bounds (call : AcceptedCall) :
    call.now.micros + microsPerSecond ≤ call.expires.micros ∧
      call.expires.micros < call.now.micros + 604801 * microsPerSecond :=
  ⟨call.meets .expiresInPast call.expires call.opts_expires,
    call.meets .expiresTooFar call.expires call.opts_expires⟩

/-- The lifetime of a call is exact. -/
theorem lifetime_eq (call : AcceptedCall) :
    call.lifetime = (call.expires.micros - call.now.micros) / microsPerSecond := by
  obtain ⟨hleast, hmost⟩ := call.remaining_bounds
  unfold microsPerSecond at hleast hmost
  refine wholeSeconds_eq ?_ ?_
  · omega
  · unfold microsPerSecond
    omega

theorem lasts_lifetime (call : AcceptedCall) : Lasts call.lifetime call.now call.expires := by
  obtain ⟨hleast, hmost⟩ := call.remaining_bounds
  have heq := call.lifetime_eq
  unfold microsPerSecond at hleast hmost heq
  constructor
  · omega
  · omega
  · unfold microsPerSecond
    omega
  · unfold microsPerSecond
    omega

end AcceptedCall

namespace SignedUrl

variable {storage : StorageSettings} {bucket object url : Text} {opts : SignedUrlOptions}
  {clock : DateTime}

/-- The lifetime in a URL is the exact number of whole seconds from the time of signing to the end
of validity, between one second and seven days, and the instant of the clock lies within it. -/
theorem create_lasts (h : (create storage bucket object opts clock).result = .ok url) :
    ∃ now expires ps seconds, signingTime clock = .ok now ∧ now.offset = some 0 ∧
      now.micros = clock.micros - clock.micros % microsPerSecond ∧ opts.expires = some expires ∧
      queryPairs? url = some ps ∧
      valuesNamed "X-Goog-Expires".toList ps = [Decimal.ofInt seconds] ∧
      seconds = CanonicalRequest.lifetime expires now ∧
      seconds = (expires.micros - now.micros) / microsPerSecond ∧ Lasts seconds now expires ∧
      clock.micros < now.micros + seconds * microsPerSecond := by
  obtain ⟨request, signer, signature, hprepare, -, -, rfl⟩ := exists_signature_of_create h
  obtain ⟨call, hnow, rfl, rfl, rfl, rfl, rfl⟩ := exists_call_at_of_prepare hprepare
  obtain ⟨-, hoffset, hmicros⟩ := of_signingTime_eq_ok hnow
  have hquery := AcceptedCall.hasQuery ⟨clock, hnow⟩ call.opts.insecure signature
  have halone : valuesNamed "X-Goog-Expires".toList call.pairs = [Decimal.ofInt call.lifetime] :=
    hquery.alone ("X-Goog-Expires".toList, Decimal.ofInt call.lifetime) (by simp [generatedPairs])
  have hlasts := call.lasts_lifetime
  refine ⟨call.now, call.expires, _, call.lifetime, hnow, hoffset, hmicros, call.opts_expires,
    hquery.pairs, ?_, rfl, call.lifetime_eq, hlasts, ?_⟩
  · rw [NameTable.valuesNamed_append, halone]
    rfl
  · have hone := hlasts.one_le
    unfold microsPerSecond at hmicros ⊢
    omega

/-- The last end of validity that is accepted, on a clock that is ahead of UTC and stands at the end
of a second, gives seven days. -/
theorem create_lasts_seven_days :
    let clock : DateTime :=
      ⟨DateTime.epoch + 330 * 60 * microsPerSecond + 999999, some (330 * microsPerMinute),
        by decide⟩
    let expires := DateTime.inUtc (DateTime.epoch + 604800 * microsPerSecond + 999999) (by decide)
    let opts := { AcceptedCall.bareWith [] with expires := some expires }
    ∃ url ps, (create ⟨[]⟩ "bucket".toList "object".toList opts clock).result = .ok url ∧
      queryPairs? url = some ps ∧
      valuesNamed "X-Goog-Expires".toList ps = ["604800".toList] := by
  intro clock expires opts
  obtain ⟨url, hurl⟩ := exists_eq_ok_of_toBool
    (x := (create ⟨[]⟩ "bucket".toList "object".toList opts clock).result) (by decide +kernel)
  obtain ⟨now, _, ps, seconds, -, -, hmicros, hexpires, hpairs, hvalues, -, hseconds, -, -⟩ :=
    create_lasts hurl
  cases hexpires
  have hweek : seconds = 604800 := by
    rw [hseconds, hmicros]
    decide
  rw [hweek] at hvalues
  exact ⟨url, ps, hurl, hpairs, hvalues⟩

end SignedUrl

end SignedAccess

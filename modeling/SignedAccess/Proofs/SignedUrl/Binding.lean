import SignedAccess.Proofs.SignedUrl.Lines
import SignedAccess.Proofs.Time.Stamp

/-!
# What a canonical form binds

Method, path and query break no line and so are read off the first three lines of a canonical form;
the query gives back the time, the lifetime, the account and the parameters that were written into
it.  No condition on the headers is needed: the names of the headers stand in the query as well.

    a.request.render = b.request.render → a.SameTerms b              (sameTerms_of_render_eq)
-/

namespace SignedAccess

theorem DateTime.eq_of_wall_eq {t u : DateTime} (hwall : t.wall = u.wall)
    (hoffset : t.offset = u.offset) : t = u := by
  cases t
  cases u
  simp only at hwall hoffset
  subst hwall hoffset
  rfl

namespace SignedUrl

variable {clock now : DateTime}

/-! ## The time of signing -/

/-- The time of signing is the last whole second before the instant of the clock, in UTC. -/
theorem of_signingTime_eq_ok (h : signingTime clock = .ok now) :
    InCalendar clock.micros ∧ now.offset = some 0 ∧
      now.micros = clock.micros - clock.micros % microsPerSecond := by
  unfold signingTime at h
  cases hu : clock.utc with
  | error e => rw [hu] at h; cases h
  | ok u =>
    rw [hu] at h
    cases h
    obtain ⟨hin, -, hoffset⟩ := DateTime.utc_eq_ok_iff.1 hu
    rw [DateTime.micros_floorSecond hoffset, DateTime.micros_of_utc hu]
    exact ⟨hin, hoffset, rfl⟩

theorem exists_signingTime (h : InCalendar clock.micros) :
    ∃ now, signingTime clock = .ok now := by
  obtain ⟨u, hu, -, -⟩ := DateTime.exists_utc h
  unfold signingTime
  rw [hu]
  exact ⟨u.floorSecond, rfl⟩

end SignedUrl

namespace AcceptedCall

open CanonicalRequest (generatedKeys generatedParameters algorithmKey credentialKey dateKey
  expiresKey signedHeadersKey)
open NameTable (valuesNamed)
open SignedUrl (pairsOf encodeQuery)

/-! ## Terms -/

/-- Whether a call is made at a time of signing, which is a whole second in UTC. -/
def AtSigningTime (call : AcceptedCall) : Prop :=
  ∃ clock, SignedUrl.signingTime clock = .ok call.now

/-- What calls with one canonical form agree in. -/
structure SameTerms (a b : AcceptedCall) : Prop where
  method : Text.upper a.opts.method = Text.upper b.opts.method
  resourcePath : a.resourcePath = b.resourcePath
  now : a.now = b.now
  lifetime : a.lifetime = b.lifetime
  accessId : a.opts.accessId = b.opts.accessId
  signedHeaders : a.request.signedHeaders = b.request.signedHeaders
  /-- Every name has the same values in the same order; none for a name that does not occur. -/
  parameters : ∀ name, valuesNamed name (pairsOf a.opts.queryParameters) =
    valuesNamed name (pairsOf b.opts.queryParameters)

def parameters (call : AcceptedCall) : List (Text × List Text) :=
  generatedParameters call.opts.accessId call.request.signedHeaders call.now call.lifetime ++
    call.opts.queryParameters

variable {call a b : AcceptedCall}

/-! ## Times of signing -/

theorem now_of_atSigningTime (h : call.AtSigningTime) :
    call.now.offset = some 0 ∧ call.now.wall % microsPerSecond = 0 := by
  obtain ⟨clock, hclock⟩ := h
  obtain ⟨-, hoffset, hmicros⟩ := SignedUrl.of_signingTime_eq_ok hclock
  refine ⟨hoffset, ?_⟩
  rw [DateTime.micros_of_offset hoffset] at hmicros
  unfold microsPerSecond at hmicros ⊢
  omega

/-- A time of signing is in UTC. -/
theorem utc_now_of_atSigningTime (h : call.AtSigningTime) : call.now.utc = .ok call.now := by
  obtain ⟨hoffset, -⟩ := now_of_atSigningTime h
  have hmicros := DateTime.micros_of_offset hoffset
  have hlt := call.now.wall_lt
  refine DateTime.utc_eq_ok_iff.2 ⟨?_, hmicros.symm, hoffset⟩
  unfold InCalendar
  omega

theorem query_of_atSigningTime (h : call.AtSigningTime) :
    call.request.query = encodeQuery call.parameters := by
  obtain ⟨n, hn, -, -, hquery⟩ := call.request_query
  rw [utc_now_of_atSigningTime h] at hn
  cases hn
  exact hquery

/-! ## First lines -/

theorem render_eq_firstLines (call : AcceptedCall) : ∃ rest, call.request.render =
    call.request.method ++ '\n' :: (call.request.path ++ '\n' ::
      (call.request.query ++ '\n' :: rest)) := by
  unfold CanonicalRequest.render
  refine ⟨Text.joined ['\n'] [Text.joined ['\n'] call.request.headers ++ ['\n'],
    call.request.signedHeaders, call.request.payloadHash], ?_⟩
  simp [Text.joined]

/-- Method, path and query are the first lines of a form. -/
theorem firstLines_eq_of_render_eq (h : a.request.render = b.request.render) :
    a.request.method = b.request.method ∧ a.request.path = b.request.path ∧
      a.request.query = b.request.query := by
  obtain ⟨rest, ha⟩ := a.render_eq_firstLines
  obtain ⟨rest', hb⟩ := b.render_eq_firstLines
  rw [ha, hb] at h
  obtain ⟨hmethod, h⟩ :=
    Text.append_cons_inj a.newline_not_mem_method b.newline_not_mem_method h
  obtain ⟨hpath, h⟩ := Text.append_cons_inj a.newline_not_mem_path b.newline_not_mem_path h
  obtain ⟨hquery, -⟩ := Text.append_cons_inj a.newline_not_mem_query b.newline_not_mem_query h
  exact ⟨hmethod, hpath, hquery⟩

/-! ## Parameters -/

/-- Under a name that is set by signing the query gives what signing has set. -/
theorem valuesNamed_parameters {name : Text} (hname : name ∈ generatedKeys) :
    valuesNamed name (pairsOf call.parameters) = valuesNamed name (pairsOf
      (generatedParameters call.opts.accessId call.request.signedHeaders call.now
        call.lifetime)) := by
  unfold parameters
  rw [SignedUrl.pairsOf_append, NameTable.valuesNamed_append,
    call.valuesNamed_caller_eq_nil hname, List.append_nil]

/-- Under any other name the query gives what the caller has given. -/
theorem valuesNamed_parameters_of_not_mem {name : Text} (hname : name ∉ generatedKeys) :
    valuesNamed name (pairsOf call.parameters) =
      valuesNamed name (pairsOf call.opts.queryParameters) := by
  unfold parameters
  rw [SignedUrl.pairsOf_append, NameTable.valuesNamed_append,
    valuesNamed_generated_eq_nil hname, List.nil_append]

/-- Queries that are equal give the caller's parameters the same values. -/
theorem caller_eq_of_parameters_eq
    (h : ∀ name, valuesNamed name (pairsOf a.parameters) = valuesNamed name (pairsOf b.parameters))
    (name : Text) : valuesNamed name (pairsOf a.opts.queryParameters) =
      valuesNamed name (pairsOf b.opts.queryParameters) := by
  by_cases hname : name ∈ generatedKeys
  · rw [a.valuesNamed_caller_eq_nil hname, b.valuesNamed_caller_eq_nil hname]
  · have heq := h name
    rw [valuesNamed_parameters_of_not_mem hname, valuesNamed_parameters_of_not_mem hname] at heq
    exact heq

/-- Queries that are equal name the same time, lifetime, account and headers. -/
theorem generated_eq_of_parameters_eq (ha : a.AtSigningTime) (hb : b.AtSigningTime)
    (h : ∀ name,
      valuesNamed name (pairsOf a.parameters) = valuesNamed name (pairsOf b.parameters)) :
    a.now = b.now ∧ a.lifetime = b.lifetime ∧ a.opts.accessId = b.opts.accessId ∧
      a.request.signedHeaders = b.request.signedHeaders := by
  have hkeys (name : Text) (hname : name ∈ generatedKeys) :=
    (valuesNamed_parameters hname).symm.trans ((h name).trans (valuesNamed_parameters hname))
  -- under each of these names signing sets one value
  have hdate : [a.now.stamp] = [b.now.stamp] := hkeys dateKey (by simp [generatedKeys])
  have hexpires : [Decimal.ofInt a.lifetime] = [Decimal.ofInt b.lifetime] :=
    hkeys expiresKey (by simp [generatedKeys])
  have hcredential : [a.opts.accessId ++ '/' :: CanonicalRequest.scope a.now] =
      [b.opts.accessId ++ '/' :: CanonicalRequest.scope b.now] :=
    hkeys credentialKey (by simp [generatedKeys])
  have hnames : [a.request.signedHeaders] = [b.request.signedHeaders] :=
    hkeys signedHeadersKey (by simp [generatedKeys])
  obtain ⟨hoffset, hwhole⟩ := now_of_atSigningTime ha
  obtain ⟨hoffset', hwhole'⟩ := now_of_atSigningTime hb
  have hnow : a.now = b.now :=
    DateTime.eq_of_wall_eq (DateTime.wall_eq_of_stamp_eq hwhole hwhole' (List.cons.inj hdate).1)
      (hoffset.trans hoffset'.symm)
  refine ⟨hnow, Decimal.ofInt_injective (List.cons.inj hexpires).1, ?_, (List.cons.inj hnames).1⟩
  -- the account ends where the scope begins, which the time gives
  have hid := (List.cons.inj hcredential).1
  rw [hnow] at hid
  exact List.append_cancel_right hid

/-! ## Binding -/

/-- Calls at times of signing that have one canonical form have the same terms. -/
theorem sameTerms_of_render_eq (ha : a.AtSigningTime) (hb : b.AtSigningTime)
    (h : a.request.render = b.request.render) : a.SameTerms b := by
  obtain ⟨hmethod, hpath, hquery⟩ := firstLines_eq_of_render_eq h
  rw [a.request_method, b.request_method] at hmethod
  rw [a.request_path, b.request_path] at hpath
  rw [query_of_atSigningTime ha, query_of_atSigningTime hb] at hquery
  have hvalues := SignedUrl.valuesNamed_eq_of_encodeQuery_eq hquery
  obtain ⟨hnow, hlifetime, hid, hnames⟩ := generated_eq_of_parameters_eq ha hb hvalues
  exact
    { method := hmethod
      resourcePath := SignedUrl.encodePath_injective (List.cons.inj hpath).2
      now := hnow
      lifetime := hlifetime
      accessId := hid
      signedHeaders := hnames
      parameters := caller_eq_of_parameters_eq hvalues }

/-- Calls for objects of different buckets under one path, with headers that break lines at
different places: they have one form, and so the same terms. -/
theorem sameTerms_of_split_path :
    let a := atMidnight "b".toList "o/p".toList ["a:1\nb:1".toList, "b;c:2\nc:3".toList]
      (eq_ok_of_toBool (by decide +kernel))
    let b := atMidnight "b/o".toList "p".toList ["a:1".toList, "b:1\nb;c:2".toList, "c:3".toList]
      (eq_ok_of_toBool (by decide +kernel))
    a.request.render = b.request.render ∧ a.headers ≠ b.headers ∧ a.SameTerms b := by
  intro a b
  have hrender : a.request.render = b.request.render := by decide +kernel
  have hheaders : a.headers ≠ b.headers := by decide +kernel
  have htime : SignedUrl.signingTime midnight = .ok midnight := rfl
  exact ⟨hrender, hheaders, sameTerms_of_render_eq ⟨midnight, htime⟩ ⟨midnight, htime⟩ hrender⟩

end AcceptedCall

end SignedAccess

import SignedAccess.Proofs.Time.Instant
import SignedAccess.SignedUrl.Acceptance

/-!
# Which options are accepted

Every reason for a refusal stands for one condition on the options (`Meets`).  Options are
accepted when they meet all conditions; otherwise the error gives the first condition, in the
order of `OptionReason.all`, that they do not meet, and what the error names (`Names`).

    check now = .ok () ↔ ∀ reason, Meets now reason
    check now = .error e ↔ e is the error of the first condition that fails

Both hold wherever the instants in question lie within the calendar.
-/

namespace SignedAccess

def OptionReason.all : List OptionReason :=
  [.missingAccessId, .signerRequired, .invalidMethod, .missingExpires, .expiresInPast, .invalidMd5,
   .invalidMd5Length, .expiresTooFar, .reservedQueryParameter, .reservedHeader]

theorem OptionReason.mem_all (reason : OptionReason) : reason ∈ all := by
  cases reason <;> decide

namespace SignedUrlOptions

/-! ## Conditions -/

/-- Whether a query parameter has a name that is set by signing, in any case. -/
def IsReserved (p : Text × List Text) : Prop :=
  ∃ key ∈ CanonicalRequest.generatedKeys, Text.lower p.1 = Text.lower key

def IsGenerated (h : Header) : Prop := h.name ∈ CanonicalRequest.generatedNames

/-- What the options have to meet at the time `now`, under the reason that is given if they do
not. -/
def Meets (opts : SignedUrlOptions) (now : DateTime) : OptionReason → Prop
  | .missingAccessId => opts.accessId ≠ []
  | .signerRequired =>
    opts.privateKey ≠ [] ∧ opts.signBytes = none ∨ opts.privateKey = [] ∧ opts.signBytes ≠ none
  | .invalidMethod => Text.upper opts.method ∈ methods
  | .missingExpires => opts.expires ≠ none
  | .expiresInPast =>
    ∀ expires, opts.expires = some expires → now.micros + microsPerSecond ≤ expires.micros
  | .invalidMd5 => opts.md5 ≠ [] → ∃ digest, Base64.decodePadded? opts.md5 = some digest
  | .invalidMd5Length =>
    opts.md5 ≠ [] → ∀ digest, Base64.decodePadded? opts.md5 = some digest → digest.length = 16
  | .expiresTooFar =>
    ∀ expires, opts.expires = some expires →
      expires.micros < now.micros + 604801 * microsPerSecond
  | .reservedQueryParameter => ∀ p ∈ opts.queryParameters, ¬IsReserved p
  | .reservedHeader => ∀ h ∈ Header.sanitize opts.headers, ¬IsGenerated h

/-- What an error for a reason names besides: the method, or the first name that is set by signing,
among the parameters in their order and among the headers by name. -/
def Names (opts : SignedUrlOptions) : OptionReason → Option Text → Prop
  | .invalidMethod, detail => detail = some opts.method
  | .reservedQueryParameter, detail =>
    ∃ before p after, opts.queryParameters = before ++ p :: after ∧ (∀ q ∈ before, ¬IsReserved q) ∧
      IsReserved p ∧ detail = some p.1
  | .reservedHeader, detail =>
    ∃ before h after, Header.sanitize opts.headers = before ++ h :: after ∧
      (∀ g ∈ before, ¬IsGenerated g) ∧ IsGenerated h ∧ detail = some h.name
  | _, detail => detail = none

/-- Whether a reason is the first, in order, whose condition the options do not meet. -/
def FirstFailure (opts : SignedUrlOptions) (now : DateTime) (reason : OptionReason) : Prop :=
  ¬opts.Meets now reason ∧ ∃ before after, OptionReason.all = before ++ reason :: after ∧
    ∀ earlier ∈ before, opts.Meets now earlier

/-! ## Checks in order -/

/-- Whether a result is the outcome of examining the conditions of some reasons in order. -/
def Settles (opts : SignedUrlOptions) (now : DateTime) (reasons : List OptionReason)
    (result : Except Error Unit) : Prop :=
  result = .ok () ∧ (∀ reason ∈ reasons, opts.Meets now reason) ∨
    ∃ before reason after detail, reasons = before ++ reason :: after ∧
      (∀ earlier ∈ before, opts.Meets now earlier) ∧ ¬opts.Meets now reason ∧
      opts.Names reason detail ∧ result = .error (.invalidOption reason detail)

section
variable {opts : SignedUrlOptions} {now : DateTime}

theorem settles_append {rs ss : List OptionReason} {x y : Except Error Unit}
    (hx : opts.Settles now rs x) (hy : opts.Settles now ss y) :
    opts.Settles now (rs ++ ss) (x >>= fun _ => y) := by
  rcases hx with ⟨rfl, hrs⟩ | ⟨before, reason, after, detail, rfl, hbefore, hfail, hnames, rfl⟩
  · rcases hy with ⟨rfl, hss⟩ | ⟨before, reason, after, detail, rfl, hbefore, hfail, hnames, rfl⟩
    · refine Or.inl ⟨rfl, fun reason h => ?_⟩
      rcases List.mem_append.1 h with h | h
      · exact hrs reason h
      · exact hss reason h
    · refine Or.inr ⟨rs ++ before, reason, after, detail, by simp, ?_, hfail, hnames, rfl⟩
      intro earlier h
      rcases List.mem_append.1 h with h | h
      · exact hrs earlier h
      · exact hbefore earlier h
  · exact Or.inr ⟨before, reason, after ++ ss, detail, by simp, hbefore, hfail, hnames, rfl⟩

theorem settles_ok {reason : OptionReason} (h : opts.Meets now reason) :
    opts.Settles now [reason] (.ok ()) :=
  Or.inl ⟨rfl, fun _ h' => List.mem_singleton.1 h' ▸ h⟩

theorem settles_error {reason : OptionReason} {detail : Option Text} (after : List OptionReason)
    (h : ¬opts.Meets now reason) (hnames : opts.Names reason detail) :
    opts.Settles now (reason :: after) (.error (.invalidOption reason detail)) :=
  Or.inr ⟨[], reason, after, detail, rfl, fun _ h' => (nomatch h'), h, hnames, rfl⟩

theorem settles_require {holds : Bool} {reason : OptionReason} {detail : Option Text}
    (h : holds = true ↔ opts.Meets now reason) (hnames : opts.Names reason detail) :
    opts.Settles now [reason] (require holds reason detail) := by
  cases holds with
  | true => exact settles_ok (h.1 rfl)
  | false => exact settles_error [] (fun hm => nomatch h.2 hm) hnames

/-! ## Single checks -/

theorem hasOneSigner_iff : opts.hasOneSigner = true ↔ opts.Meets now .signerRequired := by
  unfold hasOneSigner Meets
  by_cases hkey : opts.privateKey = []
  · cases hsign : opts.signBytes <;> simp [hkey]
  · cases hsign : opts.signBytes <;> simp [hkey]

theorem settles_checkMd5 :
    opts.Settles now [.invalidMd5, .invalidMd5Length] (checkMd5 opts.md5) := by
  unfold checkMd5
  split
  · next hnil =>
    have hdecodes : opts.Meets now .invalidMd5 := fun h => absurd hnil h
    have hlength : opts.Meets now .invalidMd5Length := fun h => absurd hnil h
    exact settles_append (settles_ok hdecodes) (settles_ok hlength)
  · next hne =>
    split
    · next hnone =>
      refine settles_error _ (fun h => ?_) rfl
      obtain ⟨digest, hsome⟩ := h hne
      rw [hnone] at hsome
      cases hsome
    · next digest hsome =>
      have hdecodes : opts.Meets now .invalidMd5 := fun _ => ⟨digest, hsome⟩
      refine settles_append (settles_ok hdecodes) (settles_require ?_ rfl)
      constructor
      · intro h _ d hd
        rw [hsome] at hd
        cases hd
        exact of_decide_eq_true h
      · intro h
        exact decide_eq_true (h hne digest hsome)

theorem isGeneratedKey_iff {p : Text × List Text} : isGeneratedKey p.1 = true ↔ IsReserved p := by
  simp only [isGeneratedKey, List.contains_iff_mem, List.mem_map, IsReserved]
  constructor
  · rintro ⟨key, hkey, h⟩
    exact ⟨key, hkey, h.symm⟩
  · rintro ⟨key, hkey, h⟩
    exact ⟨key, hkey, h.symm⟩

theorem settles_checkParameters :
    opts.Settles now [.reservedQueryParameter] (checkParameters opts.queryParameters) := by
  unfold checkParameters
  split
  · next p hfind =>
    obtain ⟨hp, before, after, heq, hbefore⟩ := List.find?_eq_some_iff_append.1 hfind
    refine settles_error [] (fun h => ?_) ⟨before, p, after, heq, ?_, isGeneratedKey_iff.1 hp, rfl⟩
    · exact h p (List.mem_of_find?_eq_some hfind) (isGeneratedKey_iff.1 hp)
    · intro q hq hres
      have hno := hbefore q hq
      rw [isGeneratedKey_iff.2 hres] at hno
      cases hno
  · next hfind =>
    refine settles_ok fun p hp hres => ?_
    exact List.find?_eq_none.1 hfind p hp (isGeneratedKey_iff.2 hres)

theorem isGenerated_iff {h : Header} :
    CanonicalRequest.generatedNames.contains h.name = true ↔ IsGenerated h := by
  rw [List.contains_iff_mem]
  exact Iff.rfl

theorem settles_checkHeaders :
    opts.Settles now [.reservedHeader] (checkHeaders opts.headers) := by
  unfold checkHeaders
  extract_lets isGenerated
  split
  · next h hfind =>
    obtain ⟨hh, before, after, heq, hbefore⟩ := List.find?_eq_some_iff_append.1 hfind
    refine settles_error [] (fun hm => ?_) ⟨before, h, after, heq, ?_, isGenerated_iff.1 hh, rfl⟩
    · exact hm h (List.mem_of_find?_eq_some hfind) (isGenerated_iff.1 hh)
    · intro g hg hgen
      have hno := hbefore g hg
      rw [show isGenerated g = true from isGenerated_iff.2 hgen] at hno
      cases hno
  · next hfind =>
    refine settles_ok fun h hh hgen => ?_
    exact List.find?_eq_none.1 hfind h hh (isGenerated_iff.2 hgen)

/-! ## All checks -/

/-- The instants that are computed while options are checked lie within the calendar. -/
structure InRange (opts : SignedUrlOptions) (now : DateTime) : Prop where
  now_in : InCalendar now.micros
  cutoff_in : InCalendar (now.micros + 604801 * microsPerSecond)
  expires_in : ∀ expires, opts.expires = some expires → InCalendar expires.micros

/-- Whether the checks come to an instant beyond the calendar: the time at which they are made, the
end of validity, or, once it is known not to be past, the time from which on it is too far. -/
structure LeavesCalendar (opts : SignedUrlOptions) (now : DateTime) : Prop where
  accessId : opts.Meets now .missingAccessId
  signer : opts.Meets now .signerRequired
  method : opts.Meets now .invalidMethod
  instant : ∃ expires, opts.expires = some expires ∧
    (¬InCalendar now.micros ∨ ¬InCalendar expires.micros ∨
      opts.Meets now .expiresInPast ∧ opts.Meets now .invalidMd5 ∧
        opts.Meets now .invalidMd5Length ∧ ¬InCalendar (now.micros + 604801 * microsPerSecond))

/-- Whether a result is the outcome of examining the conditions of some reasons in order, but the
error that a time leaves the calendar where `Leaves` holds. -/
def SettlesUnless (opts : SignedUrlOptions) (now : DateTime) (Leaves : Prop)
    (reasons : List OptionReason) (result : Except Error Unit) : Prop :=
  Leaves ∧ result = .error (.time .outOfRange) ∨ ¬Leaves ∧ opts.Settles now reasons result

theorem settlesUnless_of_settles {rs : List OptionReason} {x : Except Error Unit}
    (h : opts.Settles now rs x) : opts.SettlesUnless now False rs x :=
  Or.inr ⟨not_false, h⟩

theorem SettlesUnless.of_iff {P Q : Prop} {rs : List OptionReason} {x : Except Error Unit}
    (h : opts.SettlesUnless now P rs x) (hiff : P ↔ Q) : opts.SettlesUnless now Q rs x := by
  rwa [← propext hiff]

/-- A check comes before what is examined only where its conditions are met. -/
theorem settlesUnless_append {Leaves : Prop} {rs ss : List OptionReason} {x y : Except Error Unit}
    (hx : opts.Settles now rs x) (hy : opts.SettlesUnless now Leaves ss y) :
    opts.SettlesUnless now ((∀ reason ∈ rs, opts.Meets now reason) ∧ Leaves) (rs ++ ss)
      (x >>= fun _ => y) := by
  rcases hx with ⟨rfl, hrs⟩ | ⟨before, reason, after, detail, rfl, hbefore, hfail, hnames, rfl⟩
  · rcases hy with ⟨hleaves, herror⟩ | ⟨hstays, hsettles⟩
    · exact Or.inl ⟨⟨hrs, hleaves⟩, herror⟩
    · exact Or.inr ⟨fun h => hstays h.2, settles_append (Or.inl ⟨rfl, hrs⟩) hsettles⟩
  · refine Or.inr ⟨fun h => hfail (h.1 reason (by simp)), Or.inr ?_⟩
    exact ⟨before, reason, after ++ ss, detail, by simp, hbefore, hfail, hnames, rfl⟩

/-- An instant comes before what is examined only where it lies within the calendar. -/
theorem settlesUnless_instant {Leaves : Prop} {ss : List OptionReason} {micros : Int}
    {x : Except Error DateTime} {f : DateTime → Except Error Unit}
    (hin : InCalendar micros → ∃ t, x = .ok t ∧ opts.SettlesUnless now Leaves ss (f t))
    (hout : ¬InCalendar micros → x = .error (.time .outOfRange)) :
    opts.SettlesUnless now (¬InCalendar micros ∨ Leaves) ss (x >>= f) := by
  by_cases h : InCalendar micros
  · obtain ⟨t, rfl, hf⟩ := hin h
    rcases hf with ⟨hleaves, herror⟩ | ⟨hstays, hsettles⟩
    · exact Or.inl ⟨Or.inr hleaves, herror⟩
    · exact Or.inr ⟨fun hout => hout.elim (fun hno => hno h) hstays, hsettles⟩
  · rw [hout h]
    exact Or.inl ⟨Or.inl h, rfl⟩

theorem settles_expiresInPast {expires n e : DateTime} (hexpires : opts.expires = some expires)
    (hnow : n.micros = now.micros) (hexp : e.micros = expires.micros) :
    opts.Settles now [.expiresInPast]
      (require (decide ((leastLifetime * microsPerSecond : Nat) ≤ e.micros - n.micros))
        .expiresInPast none) := by
  refine settles_require ?_ rfl
  simp only [decide_eq_true_eq, Meets, hexpires, Option.some.injEq, forall_eq']
  rw [hnow, hexp]
  unfold leastLifetime microsPerSecond
  omega

theorem settles_expiresTooFar {expires e cutoff : DateTime} (hexpires : opts.expires = some expires)
    (hexp : e.micros = expires.micros)
    (hcutoff : cutoff.micros = now.micros + 604801 * microsPerSecond) :
    opts.Settles now [.expiresTooFar]
      (require (decide (e.micros < cutoff.micros)) .expiresTooFar none) := by
  refine settles_require ?_ rfl
  simp only [decide_eq_true_eq, Meets, hexpires, Option.some.injEq, forall_eq']
  rw [hcutoff, hexp]

theorem settlesUnless_checkFrom {expires n e : DateTime} (hexpires : opts.expires = some expires)
    (hnow : n.micros = now.micros) (hoffset : n.offset = some 0)
    (hexp : e.micros = expires.micros) :
    opts.SettlesUnless now
      (opts.Meets now .expiresInPast ∧ opts.Meets now .invalidMd5 ∧
        opts.Meets now .invalidMd5Length ∧ ¬InCalendar (now.micros + 604801 * microsPerSecond))
      [.expiresInPast, .invalidMd5, .invalidMd5Length, .expiresTooFar, .reservedQueryParameter,
        .reservedHeader] (opts.checkFrom n e) := by
  have hcutoff : opts.SettlesUnless now
      (¬InCalendar (now.micros + 604801 * microsPerSecond) ∨ False)
      [.expiresTooFar, .reservedQueryParameter, .reservedHeader]
      (n.later lifetimeCutoff >>= fun cutoff => do
        require (decide (e.micros < cutoff.micros)) .expiresTooFar none
        checkParameters opts.queryParameters
        checkHeaders opts.headers) := by
    refine settlesUnless_instant (fun hin => ?_) fun hout => ?_
    · obtain ⟨cutoff, hlater, hcutoff⟩ := DateTime.exists_later hoffset (hnow ▸ hin)
      have hfar := settles_expiresTooFar hexpires hexp (hnow ▸ hcutoff)
      exact ⟨cutoff, hlater, settlesUnless_of_settles
        (settles_append hfar (settles_append settles_checkParameters settles_checkHeaders))⟩
    · exact DateTime.later_eq_error hoffset (hnow ▸ hout)
  have hchecks := settlesUnless_append (settles_expiresInPast hexpires hnow hexp)
    (settlesUnless_append settles_checkMd5 hcutoff)
  refine SettlesUnless.of_iff (show opts.SettlesUnless now _ _ (opts.checkFrom n e) from hchecks) ?_
  simp only [List.mem_cons, List.not_mem_nil, or_false, forall_eq_or_imp, forall_eq, and_assoc]

theorem settlesUnless_instants {expires : DateTime} (hexpires : opts.expires = some expires) :
    opts.SettlesUnless now
      (¬InCalendar now.micros ∨ ¬InCalendar expires.micros ∨
        opts.Meets now .expiresInPast ∧ opts.Meets now .invalidMd5 ∧
          opts.Meets now .invalidMd5Length ∧ ¬InCalendar (now.micros + 604801 * microsPerSecond))
      [.expiresInPast, .invalidMd5, .invalidMd5Length, .expiresTooFar, .reservedQueryParameter,
        .reservedHeader] (now.utc >>= fun n => expires.utc >>= fun e => opts.checkFrom n e) := by
  refine settlesUnless_instant (fun hnow => ?_) DateTime.utc_eq_error
  obtain ⟨n, hn, hmicros, hoffset⟩ := DateTime.exists_utc hnow
  refine ⟨n, hn, settlesUnless_instant (fun hexp => ?_) DateTime.utc_eq_error⟩
  obtain ⟨e, he, hmicros', -⟩ := DateTime.exists_utc hexp
  exact ⟨e, he, settlesUnless_checkFrom hexpires hmicros hoffset hmicros'⟩

/-- The checks examine all conditions in order, unless they come to an instant beyond the
calendar. -/
theorem settlesUnless_check (opts : SignedUrlOptions) (now : DateTime) :
    opts.SettlesUnless now (opts.LeavesCalendar now) OptionReason.all (opts.check now) := by
  have hid : opts.Settles now [.missingAccessId]
      (require (decide (opts.accessId ≠ [])) .missingAccessId none) :=
    settles_require (by simp [Meets]) rfl
  have hsigner : opts.Settles now [.signerRequired]
      (require opts.hasOneSigner .signerRequired none) :=
    settles_require hasOneSigner_iff rfl
  have hmethod : opts.Settles now [.invalidMethod]
      (require (methods.contains (Text.upper opts.method)) .invalidMethod (some opts.method)) :=
    settles_require (by simp [Meets]) rfl
  have hchecks {Leaves : Prop} {ss : List OptionReason} {y : Except Error Unit}
      (hy : opts.SettlesUnless now Leaves ss y) :=
    settlesUnless_append hid (settlesUnless_append hsigner (settlesUnless_append hmethod hy))
  unfold check
  cases hexpires : opts.expires with
  | none =>
    have hmissing : opts.Settles now (.missingExpires :: OptionReason.all.drop 4)
        (.error (.invalidOption .missingExpires none)) :=
      settles_error _ (fun hm => hm hexpires) rfl
    refine (hchecks (settlesUnless_of_settles hmissing)).of_iff ⟨fun h => h.2.2.2.elim, fun h => ?_⟩
    obtain ⟨expires, hsome, -⟩ := h.instant
    rw [hexpires] at hsome
    cases hsome
  | some expires =>
    have hset : opts.Settles now [.missingExpires] (.ok ()) :=
      settles_ok (by simp [Meets, hexpires])
    have hinstants := settlesUnless_append hset (settlesUnless_instants hexpires)
    refine (hchecks hinstants).of_iff ⟨fun h => ?_, fun h => ?_⟩
    · simp only [List.mem_cons, List.not_mem_nil, or_false, forall_eq] at h
      obtain ⟨hid, hsigner, hmethod, -, hinstant⟩ := h
      exact ⟨hid, hsigner, hmethod, expires, hexpires, hinstant⟩
    · obtain ⟨expires', hsome, hinstant⟩ := h.instant
      rw [hexpires] at hsome
      cases hsome
      have hmissing : opts.Meets now .missingExpires := by simp [Meets, hexpires]
      simp only [List.mem_cons, List.not_mem_nil, or_false, forall_eq]
      exact ⟨h.accessId, h.signer, h.method, hmissing, hinstant⟩

/-- Within the calendar, the checks examine all conditions in order. -/
theorem settles_check (h : opts.InRange now) :
    opts.Settles now OptionReason.all (opts.check now) := by
  rcases settlesUnless_check opts now with ⟨hleaves, -⟩ | ⟨-, hsettles⟩
  · obtain ⟨expires, hexpires, hnow | hexp | ⟨-, -, -, hcutoff⟩⟩ := hleaves.instant
    · exact absurd h.now_in hnow
    · exact absurd (h.expires_in expires hexpires) hexp
    · exact absurd h.cutoff_in hcutoff
  · exact hsettles

/-! ## Results -/

/-- Of two elements of a list before which, in their turn, `P` holds nowhere, both with `P`, each
is the other. -/
theorem eq_of_first {α : Type} {P : α → Prop} {x y : α} {before after before' after' : List α}
    (h : before ++ x :: after = before' ++ y :: after') (hbefore : ∀ z ∈ before, ¬P z) (hx : P x)
    (hbefore' : ∀ z ∈ before', ¬P z) (hy : P y) : x = y := by
  rcases List.append_eq_append_iff.1 h with ⟨between, heq, hrest⟩ | ⟨between, heq, hrest⟩
  · cases between with
    | nil => exact (List.cons.inj hrest).1
    | cons z between =>
      have hz := (List.cons.inj hrest).1
      exact absurd (hz ▸ hx) (hbefore' z (by rw [heq]; simp))
  · cases between with
    | nil => exact (List.cons.inj hrest).1.symm
    | cons z between =>
      have hz := (List.cons.inj hrest).1
      exact absurd (hz ▸ hy) (hbefore z (by rw [heq]; simp))

theorem firstFailure_unique {r s : OptionReason} (hr : opts.FirstFailure now r)
    (hs : opts.FirstFailure now s) : r = s := by
  obtain ⟨hfail, before, after, heq, hbefore⟩ := hr
  obtain ⟨hfail', before', after', heq', hbefore'⟩ := hs
  exact eq_of_first (P := fun reason => ¬opts.Meets now reason) (heq.symm.trans heq')
    (fun z hz hno => hno (hbefore z hz)) hfail (fun z hz hno => hno (hbefore' z hz)) hfail'

theorem names_unique {reason : OptionReason} {d d' : Option Text} (h : opts.Names reason d)
    (h' : opts.Names reason d') : d = d' := by
  cases reason with
  | reservedQueryParameter =>
    obtain ⟨before, p, after, heq, hbefore, hp, rfl⟩ := h
    obtain ⟨before', q, after', heq', hbefore', hq, rfl⟩ := h'
    rw [eq_of_first (heq.symm.trans heq') hbefore hp hbefore' hq]
  | reservedHeader =>
    obtain ⟨before, g, after, heq, hbefore, hg, rfl⟩ := h
    obtain ⟨before', g', after', heq', hbefore', hg', rfl⟩ := h'
    rw [eq_of_first (heq.symm.trans heq') hbefore hg hbefore' hg']
  | _ => exact Eq.trans h (Eq.symm h')

/-- Options that are accepted meet all conditions. -/
theorem meets_of_settles {result : Except Error Unit}
    (h : opts.Settles now OptionReason.all result) (hok : result = .ok ()) (reason : OptionReason) :
    opts.Meets now reason := by
  rcases h with ⟨-, hall⟩ | ⟨_, _, _, _, -, -, -, -, herror⟩
  · exact hall reason reason.mem_all
  · rw [hok] at herror
    cases herror

/-- The error of options that are refused is that of the first condition they do not meet. -/
theorem firstFailure_of_settles {result : Except Error Unit} {error : Error}
    (h : opts.Settles now OptionReason.all result) (herror : result = .error error) :
    ∃ reason detail, opts.FirstFailure now reason ∧ opts.Names reason detail ∧
      error = .invalidOption reason detail := by
  rcases h with ⟨hok, -⟩ | ⟨before, reason, after, detail, heq, hbefore, hfail, hnames, hresult⟩
  · rw [hok] at herror
    cases herror
  · rw [hresult] at herror
    have hfirst : opts.FirstFailure now reason := ⟨hfail, before, after, heq, hbefore⟩
    exact ⟨reason, detail, hfirst, hnames, (Except.error.inj herror).symm⟩

/-- What examines all conditions succeeds just when all are met. -/
theorem eq_ok_iff_of_settles {result : Except Error Unit}
    (h : opts.Settles now OptionReason.all result) :
    result = .ok () ↔ ∀ reason, opts.Meets now reason := by
  refine ⟨fun hok => meets_of_settles h hok, fun hmeets => ?_⟩
  cases result with
  | ok u => rfl
  | error error =>
    obtain ⟨reason, -, hfirst, -⟩ := firstFailure_of_settles h rfl
    exact absurd (hmeets reason) hfirst.1

/-- It fails just with the reason of the first condition that is not met. -/
theorem eq_error_iff_of_settles {result : Except Error Unit} {error : Error}
    (h : opts.Settles now OptionReason.all result) :
    result = .error error ↔ ∃ reason detail, opts.FirstFailure now reason ∧
      opts.Names reason detail ∧ error = .invalidOption reason detail := by
  refine ⟨fun herror => firstFailure_of_settles h herror, ?_⟩
  rintro ⟨reason, detail, hfirst, hnames, rfl⟩
  cases result with
  | ok u => exact absurd (meets_of_settles h rfl reason) hfirst.1
  | error error =>
    obtain ⟨reason', detail', hfirst', hnames', rfl⟩ := firstFailure_of_settles h rfl
    cases firstFailure_unique hfirst hfirst'
    rw [names_unique hnames hnames']

/-- Options are accepted just when they meet all conditions.  Otherwise they are refused with the
reason of the first condition that they do not meet and with what that reason names. -/
theorem check_eq_ok_iff_and_error_iff (h : opts.InRange now) :
    (opts.check now = .ok () ↔ ∀ reason, opts.Meets now reason) ∧
      ∀ error, opts.check now = .error error ↔
        ∃ reason detail, opts.FirstFailure now reason ∧ opts.Names reason detail ∧
          error = .invalidOption reason detail := by
  have hsettles := settles_check h
  exact ⟨eq_ok_iff_of_settles hsettles, fun error => eq_error_iff_of_settles hsettles⟩

end

/-- Options with nothing but an account, a function that signs, a method and an end of validity. -/
def bare (method : Text) (expires : DateTime) : SignedUrlOptions :=
  { accessId := "signer".toList
    privateKey := []
    signBytes := some fun _ => .signature [0]
    method := method
    expires := some expires
    contentType := []
    headers := []
    queryParameters := []
    md5 := []
    style := .path none
    insecure := false }

/-- Of two conditions that fail, the one that is examined first gives the error. -/
theorem check_eq_error_of_two_failures :
    let start : DateTime := ⟨DateTime.epoch, none, by decide⟩
    let cutoff : DateTime := ⟨DateTime.epoch + 604801 * microsPerSecond, some 0, by decide⟩
    let opts := { bare "put".toList cutoff with headers := ["Host: example".toList] }
    opts.InRange start ∧ ¬opts.Meets start .reservedHeader ∧
      opts.check start = .error (.invalidOption .expiresTooFar none) := by
  intro start cutoff opts
  have hrange : opts.InRange start :=
    ⟨by unfold InCalendar; decide, by unfold InCalendar; decide, fun expires h => by
      cases h
      unfold InCalendar
      decide⟩
  have hfirst : opts.FirstFailure start .expiresTooFar := by
    refine ⟨fun h => absurd (h cutoff rfl) (by decide),
      [.missingAccessId, .signerRequired, .invalidMethod, .missingExpires, .expiresInPast,
        .invalidMd5, .invalidMd5Length], [.reservedQueryParameter, .reservedHeader], rfl, ?_⟩
    intro earlier hearlier
    simp only [List.mem_cons, List.not_mem_nil, or_false] at hearlier
    rcases hearlier with rfl | rfl | rfl | rfl | rfl | rfl | rfl
    · exact List.cons_ne_nil _ _
    · exact Or.inr ⟨rfl, fun h => nomatch h⟩
    · show Text.upper "put".toList ∈ methods
      decide
    · exact fun h => nomatch h
    · intro expires h
      cases h
      decide
    · exact fun h => absurd rfl h
    · exact fun h => absurd rfl h
  refine ⟨hrange, fun h => ?_, ?_⟩
  · exact h ⟨"host".toList, "example".toList⟩ (by decide) List.mem_cons_self
  · exact ((check_eq_ok_iff_and_error_iff hrange).2 _).2 ⟨_, _, hfirst, rfl, rfl⟩

end SignedUrlOptions

end SignedAccess

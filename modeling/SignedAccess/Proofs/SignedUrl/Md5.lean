import SignedAccess.Proofs.Bytes.StrictReader
import SignedAccess.Proofs.SignedUrl.HeaderOrder
import SignedAccess.Proofs.Text.Trim

/-!
# The digest of the body

Options that are accepted without a digest of the body are accepted with one just when it is written
as 22 digits in base64 and two padding characters.  Any other text that the strict reader of base64
reads is of a wrong length, and what it does not read is refused as such.  An accepted digest has no
blanks, so that its header carries it as it was given.

    { opts with md5 := [] } accepted → Md5Settled opts now m          (check_md5_settled)
-/

namespace SignedAccess

namespace SignedUrlOptions

open Base64 (IsDigestText IsStrict scan?)

variable {opts : SignedUrlOptions} {now : DateTime} {m : Text}

def withMd5 (opts : SignedUrlOptions) (m : Text) : SignedUrlOptions := { opts with md5 := m }

/-- How a digest of the body settles the check of options. -/
structure Md5Settled (opts : SignedUrlOptions) (now : DateTime) (m : Text) : Prop where
  accepted_iff : (opts.withMd5 m).check now = .ok () ↔ IsDigestText m
  wrongLength_iff : (opts.withMd5 m).check now = .error (.invalidOption .invalidMd5Length none) ↔
    (∃ digest, scan? m = some digest) ∧ ¬IsDigestText m
  unreadable_iff : (opts.withMd5 m).check now = .error (.invalidOption .invalidMd5 none) ↔
    ∀ digest, scan? m ≠ some digest
  /-- What can be read: any number of padding characters may follow complete groups. -/
  readable_iff : (∃ digest, scan? m = some digest) ↔ IsStrict m
  trimmed : IsDigestText m → Text.trim m = m
  /-- The header carries an accepted digest as it is. -/
  header : IsDigestText m → ∀ storage bucket object, ∃ request,
    CanonicalRequest.build storage bucket object (opts.withMd5 m) now = .ok request ∧
      request.headers.filter (fun l => Header.nameOf l = "content-md5".toList) =
        ["content-md5:".toList ++ m]

/-! ## Conditions -/

/-- The other conditions do not depend on the digest. -/
theorem meets_withMd5_iff {reason : OptionReason} (hreads : reason ≠ .invalidMd5)
    (hlength : reason ≠ .invalidMd5Length) :
    (opts.withMd5 m).Meets now reason ↔ opts.Meets now reason := by
  cases reason with
  | invalidMd5 => exact absurd rfl hreads
  | invalidMd5Length => exact absurd rfl hlength
  | _ => exact Iff.rfl

/-! ## The check -/

/-- With a digest, the check of options that are accepted without one ends as the digest decides. -/
theorem check_withMd5 (h : (opts.withMd5 []).check now = .ok ()) :
    (opts.withMd5 m).check now = checkMd5 m := by
  have hmeets (reason : OptionReason) (hreads : reason ≠ .invalidMd5)
      (hlength : reason ≠ .invalidMd5Length) : (opts.withMd5 m).Meets now reason :=
    (meets_withMd5_iff hreads hlength).2
      ((meets_withMd5_iff hreads hlength).1 (meets_of_check_eq_ok h reason))
  have hrange : (opts.withMd5 m).InRange now :=
    let hin := inRange_of_check_eq_ok h
    ⟨hin.now_in, hin.cutoff_in, hin.expires_in⟩
  have hdigest : (opts.withMd5 m).Settles now [.invalidMd5, .invalidMd5Length] (checkMd5 m) :=
    settles_checkMd5
  rcases hdigest with ⟨hok, hall⟩ |
    ⟨before, reason, after, detail, heq, hbefore, hfail, hnames, herror⟩
  · rw [hok, eq_ok_iff_of_settles (settles_check hrange)]
    intro reason
    by_cases hreads : reason = .invalidMd5
    · exact hall reason (by simp [hreads])
    · by_cases hlength : reason = .invalidMd5Length
      · exact hall reason (by simp [hlength])
      · exact hmeets reason hreads hlength
  · rw [herror, eq_error_iff_of_settles (settles_check hrange)]
    refine ⟨reason, detail, ⟨hfail, OptionReason.all.take 5 ++ before,
      after ++ OptionReason.all.drop 7, ?_, fun earlier hearlier => ?_⟩, hnames, rfl⟩
    · rw [List.append_assoc, ← List.cons_append, ← List.append_assoc before, ← heq]
      rfl
    · rcases List.mem_append.1 hearlier with hearlier | hearlier
      · refine hmeets earlier ?_ ?_
        · rintro rfl
          exact absurd hearlier (by decide)
        · rintro rfl
          exact absurd hearlier (by decide)
      · exact hbefore earlier hearlier

/-- What the check of a digest comes to. -/
theorem checkMd5_of_ne_nil (hm : m ≠ []) : checkMd5 m =
    match scan? m with
    | none => .error (.invalidOption .invalidMd5 none)
    | some digest => require (digest.length = 16) .invalidMd5Length none := by
  unfold checkMd5
  rw [if_neg hm, Base64.scan?_eq_decodePadded?]
  rfl

theorem isDigestText_iff_scan? :
    IsDigestText m ↔ ∃ digest, scan? m = some digest ∧ digest.length = 16 := by
  rw [Base64.scan?_eq_decodePadded?]
  exact Base64.isDigestText_iff

/-- There are no blanks at the ends of a digest. -/
theorem trim_of_isDigestText (h : IsDigestText m) : Text.trim m = m := by
  obtain ⟨digest, hdigest, -⟩ := Base64.isDigestText_iff.1 h
  have hblank := Base64.isBlank_of_decodePadded? hdigest
  exact Text.trim_eq_self_iff.2 ⟨fun c hc => hblank c (List.mem_of_mem_head? hc),
    fun c hc => hblank c (List.mem_of_mem_getLast? hc)⟩

/-- The check of a digest among options that are accepted without one. -/
theorem check_md5_settled (hm : m ≠ []) (h : (opts.withMd5 []).check now = .ok ()) :
    opts.Md5Settled now m := by
  have hcheck : (opts.withMd5 m).check now = _ := (check_withMd5 h).trans (checkMd5_of_ne_nil hm)
  have haccepted : (opts.withMd5 m).check now = .ok () ↔ IsDigestText m := by
    rw [hcheck, isDigestText_iff_scan?]
    cases scan? m with
    | none => simp
    | some digest => simp [require_eq_ok_iff]
  constructor
  case accepted_iff => exact haccepted
  case wrongLength_iff =>
    rw [hcheck, isDigestText_iff_scan?]
    cases scan? m with
    | none => simp
    | some digest => by_cases hlength : digest.length = 16 <;> simp [require, hlength]
  case unreadable_iff =>
    rw [hcheck]
    cases scan? m with
    | none => simp
    | some digest => by_cases hlength : digest.length = 16 <;> simp [require, hlength]
  case readable_iff => exact Base64.exists_scan?_iff
  case trimmed => exact trim_of_isDigestText
  case header =>
    intro hdigest storage bucket object
    obtain ⟨call, rfl, rfl, rfl, hopts, rfl⟩ :=
      AcceptedCall.exists_of_check_eq_ok (haccepted.2 hdigest) storage bucket object
    have hmd5 : call.opts.md5 = m := by rw [hopts]; rfl
    refine ⟨call.request, hopts ▸ call.built, ?_⟩
    rw [call.headersInOrder.contentMd5, hmd5, if_neg hm, trim_of_isDigestText hdigest]

/-- A digest whose unused bits are set is accepted and sent as it is; one with surplus padding is
not. -/
theorem check_md5_settled_bits :
    let opts := AcceptedCall.bareWith []
    let m := "1B2M2Y8AsgTpgAmY7PhCf/==".toList
    (m ≠ [] ∧ (opts.withMd5 []).check AcceptedCall.midnight = .ok ()) ∧
      (opts.withMd5 m).check AcceptedCall.midnight = .ok () ∧
      (∃ request, CanonicalRequest.build ⟨[]⟩ "b".toList "o".toList (opts.withMd5 m)
          AcceptedCall.midnight = .ok request ∧
        request.headers.filter (fun l => Header.nameOf l = "content-md5".toList) =
          ["content-md5:1B2M2Y8AsgTpgAmY7PhCf/==".toList]) ∧
      (opts.withMd5 "AAAA=".toList).check AcceptedCall.midnight =
        .error (.invalidOption .invalidMd5Length none) := by
  intro opts m
  have hbare : (opts.withMd5 []).check AcceptedCall.midnight = .ok () :=
    eq_ok_of_toBool (by decide +kernel)
  have hm : m ≠ [] := by decide
  have hsettled := check_md5_settled hm hbare
  have hsymbols {t : Text} (h : (t.all fun c => decide (Base64.IsSymbol c)) = true) :
      ∀ c ∈ t, Base64.IsSymbol c := fun c hc => of_decide_eq_true (List.all_eq_true.1 h c hc)
  have hdigest : IsDigestText m :=
    ⟨"1B2M2Y8AsgTpgAmY7PhCf/".toList, rfl, hsymbols (by decide), rfl⟩
  have hsurplus : IsStrict "AAAA=".toList :=
    ⟨"AAAA".toList, 1, rfl, hsymbols (by decide), Or.inl ⟨rfl, nofun⟩⟩
  have hno : ¬IsDigestText "AAAA=".toList := by
    rintro ⟨digits, hlength, -, heq⟩
    have hlong := congrArg List.length heq
    rw [List.length_append, hlength] at hlong
    cases hlong
  have hshort := check_md5_settled (m := "AAAA=".toList) (by decide) hbare
  refine ⟨⟨hm, hbare⟩, hsettled.accepted_iff.2 hdigest, hsettled.header hdigest _ _ _, ?_⟩
  exact hshort.wrongLength_iff.2 ⟨hshort.readable_iff.2 hsurplus, hno⟩

end SignedUrlOptions

end SignedAccess

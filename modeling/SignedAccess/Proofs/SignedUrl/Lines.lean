import SignedAccess.Proofs.Bytes.Base64
import SignedAccess.Proofs.SignedUrl.AcceptedCall
import SignedAccess.Proofs.SignedUrl.HeaderList
import SignedAccess.Proofs.SignedUrl.Query

/-!
# The canonical form in lines

The canonical form of an accepted call is one text of lines: method, path, query, the lines of the
headers, an empty line, the names of the headers and the digest of the body.  Signing keeps line
breaks out of every part but the host, the content type and the headers of the caller; where these
hold none, and just there, the lines are found again.

    render.splitOn '\n' = call.lines ↔ call.Unbroken
    signedHeaders.splitOn ';' = the names ↔ call.HasPlainNames
-/

namespace SignedAccess

namespace AcceptedCall

open SignedUrl (encodePath encodeQuery)

/-! ## Lines -/

def lines (call : AcceptedCall) : List Text :=
  [call.request.method, call.request.path, call.request.query] ++
    (call.headers.map Header.line ++ [[], call.request.signedHeaders, call.request.payloadHash])

/-- The lines that a reader takes for headers: those behind the third up to an empty one. -/
def headerLines (form : Text) : List Text := ((form.splitOn '\n').drop 3).takeWhile (· ≠ [])

/-- Whether no line is broken by the host, the content type or a header of the caller. -/
structure Unbroken (call : AcceptedCall) : Prop where
  host : '\n' ∉ call.host
  contentType : '\n' ∉ Text.trim call.opts.contentType
  entries : ∀ entry ∈ call.opts.headers, ∀ h, Header.ofEntry? entry = some h → '\n' ∉ h.line

/-- Whether no header of the caller has a semicolon in its name. -/
def HasPlainNames (call : AcceptedCall) : Prop :=
  ∀ entry ∈ call.opts.headers, ∀ h, Header.ofEntry? entry = some h → ';' ∉ h.name

variable {call : AcceptedCall}

/-- There is always the header that gives the host. -/
theorem host_mem_headers (call : AcceptedCall) :
    (⟨CanonicalRequest.hostName, call.host⟩ : Header) ∈ call.headers :=
  CanonicalRequest.mem_headersOf.2 (Or.inl List.mem_cons_self)

theorem headers_ne_nil (call : AcceptedCall) : call.headers ≠ [] :=
  List.ne_nil_of_mem call.host_mem_headers

theorem line_ne_nil (h : Header) : h.line ≠ [] := by
  unfold Header.line
  exact List.append_ne_nil_of_right_ne_nil _ (List.cons_ne_nil _ _)

/-- The canonical form is its lines. -/
theorem render_eq (call : AcceptedCall) : call.request.render = Text.joined ['\n'] call.lines := by
  have hlines : call.headers.map Header.line ≠ [] := by
    simpa using call.headers_ne_nil
  unfold CanonicalRequest.render lines
  rw [Text.joined_append _ (List.cons_ne_nil _ _) (List.append_ne_nil_of_left_ne_nil hlines _),
    Text.joined_append _ hlines (List.cons_ne_nil _ _), call.request_headers]
  simp [Text.joined]

/-! ## Parts that break no line -/

theorem newline_not_mem_method (call : AcceptedCall) : '\n' ∉ call.request.method := by
  have hmethods : ∀ method ∈ SignedUrlOptions.methods, '\n' ∉ method := by decide
  rw [call.request_method]
  exact hmethods _ (call.meets .invalidMethod)

theorem newline_not_mem_path (call : AcceptedCall) : '\n' ∉ call.request.path := by
  rw [call.request_path, List.mem_cons, not_or]
  exact ⟨by decide, SignedUrl.not_mem_encodePath rfl (by decide) _⟩

theorem newline_not_mem_query (call : AcceptedCall) : '\n' ∉ call.request.query := by
  obtain ⟨n, -, -, -, hquery⟩ := call.request_query
  rw [hquery]
  exact SignedUrl.not_mem_encodePairs rfl (by decide) (by decide) (by decide) _

theorem newline_not_mem_md5 (call : AcceptedCall) : '\n' ∉ call.opts.md5 := by
  intro hmem
  obtain ⟨digest, hdigest⟩ := call.meets .invalidMd5 (List.ne_nil_of_mem hmem)
  exact absurd (Base64.isBlank_of_decodePadded? hdigest _ hmem) (by decide)

/-- The digest of the body breaks no line that the headers leave whole. -/
theorem newline_not_mem_payloadHash (h : ∀ h ∈ call.headers, '\n' ∉ h.line) :
    '\n' ∉ call.request.payloadHash := by
  rw [call.request_payloadHash]
  rcases CanonicalRequest.payloadHashOf_eq call.opts.headers with heq | ⟨g, hg, heq⟩
  · rw [heq]
    decide
  · intro hmem
    rw [heq] at hmem
    refine h g (CanonicalRequest.mem_headersOf.2 (Or.inr hg)) ?_
    exact List.mem_append_right _ (List.mem_cons_of_mem _ hmem)

theorem newline_not_mem_signedHeaders (h : ∀ h ∈ call.headers, '\n' ∉ h.line) :
    '\n' ∉ call.request.signedHeaders := by
  rw [call.request_signedHeaders]
  intro hmem
  rcases Text.mem_joined hmem with hsep | ⟨name, hname, hin⟩
  · exact absurd hsep (by decide)
  · obtain ⟨g, hg, rfl⟩ := List.mem_map.1 hname
    exact h g hg (List.mem_append_left _ hin)

/-- The lines of the headers are whole just when host, content type and entries are. -/
theorem unbroken_iff : call.Unbroken ↔ ∀ h ∈ call.headers, '\n' ∉ h.line := by
  have hbreak : '\n' ≠ ':' := by decide
  constructor
  · intro hu h hh hmem
    rcases CanonicalRequest.mem_headersOf.1 hh with hgen | hsan
    · have hnames : ∀ name ∈ CanonicalRequest.generatedNames, '\n' ∉ name := by decide
      rcases (Header.mem_line hbreak).1 hmem with hname | hvalue
      · exact hnames _ (CanonicalRequest.isGenerated_of_mem_generatedHeaders hgen) hname
      · rcases CanonicalRequest.mem_generatedHeaders.1 hgen with rfl | ⟨-, rfl⟩ | ⟨-, rfl⟩
        · exact hu.host hvalue
        · exact hu.contentType hvalue
        · exact call.newline_not_mem_md5 (Text.mem_of_mem_trim hvalue)
    · obtain ⟨entry, hentry, g, hsome, hin⟩ :=
        Header.exists_entry_of_mem_line (by decide) hsan hmem
      exact hu.entries entry hentry g hsome hin
  · intro h
    have hgen {g : Header} (hg : g ∈ CanonicalRequest.generatedHeaders call.host call.opts) :
        '\n' ∉ g.value := fun hmem =>
      h g (CanonicalRequest.mem_headersOf.2 (Or.inl hg)) ((Header.mem_line hbreak).2 (Or.inr hmem))
    refine ⟨hgen List.mem_cons_self, fun hmem => ?_, fun entry hentry g hsome hmem => ?_⟩
    · -- an empty content type gives no header, but holds no line break either
      have hne : call.opts.contentType ≠ [] := List.ne_nil_of_mem (Text.mem_of_mem_trim hmem)
      exact hgen (CanonicalRequest.mem_generatedHeaders.2 (Or.inr (Or.inl ⟨hne, rfl⟩))) hmem
    · obtain ⟨k, hk, -, hline⟩ := Header.exists_mem_sanitize hentry hsome
      exact h k (CanonicalRequest.mem_headersOf.2 (Or.inr hk)) (hline _ hmem)

/-- No name of a header has a semicolon just when no name of an entry has one. -/
theorem hasPlainNames_iff : call.HasPlainNames ↔ ∀ h ∈ call.headers, ';' ∉ h.name := by
  constructor
  · intro hp h hh hmem
    rcases CanonicalRequest.mem_headersOf.1 hh with hgen | hsan
    · have hnames : ∀ name ∈ CanonicalRequest.generatedNames, ';' ∉ name := by decide
      exact hnames _ (CanonicalRequest.isGenerated_of_mem_generatedHeaders hgen) hmem
    · obtain ⟨entry, hentry, g, hsome, hname⟩ := Header.exists_entry_of_mem_sanitize hsan
      exact hp entry hentry g hsome (hname ▸ hmem)
  · intro h entry hentry g hsome hmem
    obtain ⟨k, hk, hname, -⟩ := Header.exists_mem_sanitize hentry hsome
    exact h k (CanonicalRequest.mem_headersOf.2 (Or.inr hk)) (hname ▸ hmem)

/-! ## Forms read back -/

/-- The lines are found again just when none of them is broken. -/
theorem splitOn_render_iff : call.request.render.splitOn '\n' = call.lines ↔ call.Unbroken := by
  have hne : call.lines ≠ [] := List.cons_ne_nil _ _
  rw [render_eq, Text.splitOn_joined_iff hne, unbroken_iff]
  constructor
  · intro h g hg
    refine h g.line (List.mem_append_right _ (List.mem_append_left _ ?_))
    exact List.mem_map_of_mem hg
  · intro h line hline
    unfold lines at hline
    simp only [List.mem_append, List.mem_cons, List.not_mem_nil, or_false, List.mem_map] at hline
    rcases hline with (rfl | rfl | rfl) | ⟨g, hg, rfl⟩ | rfl | rfl | rfl
    · exact call.newline_not_mem_method
    · exact call.newline_not_mem_path
    · exact call.newline_not_mem_query
    · exact h g hg
    · exact List.not_mem_nil
    · exact newline_not_mem_signedHeaders h
    · exact newline_not_mem_payloadHash h

/-- The names are found again just when none of them has a semicolon. -/
theorem splitOn_signedHeaders_iff :
    call.request.signedHeaders.splitOn ';' = call.headers.map Header.name ↔
      call.HasPlainNames := by
  have hne : call.headers.map Header.name ≠ [] := by
    simpa using call.headers_ne_nil
  rw [call.request_signedHeaders, hasPlainNames_iff]
  unfold CanonicalRequest.namesOf
  rw [Text.splitOn_joined_iff hne]
  exact List.forall_mem_map

/-- The lines that a reader takes for headers are those of the headers. -/
theorem headerLines_render (h : call.Unbroken) :
    headerLines call.request.render = call.headers.map Header.line := by
  have hpos : ∀ line ∈ call.headers.map Header.line, decide (line ≠ []) = true := by
    intro line hline
    obtain ⟨g, -, rfl⟩ := List.mem_map.1 hline
    exact decide_eq_true (line_ne_nil g)
  unfold headerLines
  rw [splitOn_render_iff.2 h]
  -- every line of a header has its colon, so the first empty line is the one behind them
  show (call.headers.map Header.line ++ _).takeWhile _ = _
  rw [List.takeWhile_append_of_pos hpos]
  simp

theorem headers_eq_of_map_line_eq {gs hs : List Header} (hgs : ∀ g ∈ gs, ':' ∉ g.name)
    (hhs : ∀ h ∈ hs, ':' ∉ h.name) (heq : gs.map Header.line = hs.map Header.line) : gs = hs := by
  induction gs generalizing hs with
  | nil => exact (List.map_eq_nil_iff.1 heq.symm).symm
  | cons g gs ih =>
    cases hs with
    | nil => cases heq
    | cons h hs =>
      obtain ⟨hline, hrest⟩ := List.cons.inj heq
      have hhead :=
        Header.line_injective (hgs g List.mem_cons_self) (hhs h List.mem_cons_self) hline
      have htail := ih (fun g hg => hgs g (List.mem_cons_of_mem _ hg))
        (fun h hh => hhs h (List.mem_cons_of_mem _ hh)) hrest
      rw [hhead, htail]

/-- Forms without broken lines that are equal have the same headers. -/
theorem headers_eq_of_render_eq {other : AcceptedCall} (h : call.Unbroken) (hother : other.Unbroken)
    (heq : other.request.render = call.request.render) : other.headers = call.headers := by
  have hlines := headerLines_render hother
  rw [heq, headerLines_render h] at hlines
  exact headers_eq_of_map_line_eq
    (fun _ hg => CanonicalRequest.colon_not_mem_name_of_mem_headersOf hg)
    (fun _ hg => CanonicalRequest.colon_not_mem_name_of_mem_headersOf hg) hlines.symm

/-- A whole line that names a header set by signing is the line of that header. -/
theorem exists_generated_of_mem_headerLines (h : call.Unbroken) {line : Text}
    (hline : line ∈ headerLines call.request.render)
    (hname : Header.nameOf line ∈ CanonicalRequest.generatedNames) :
    ∃ g ∈ CanonicalRequest.generatedHeaders call.host call.opts, line = g.line := by
  rw [headerLines_render h] at hline
  obtain ⟨g, hg, rfl⟩ := List.mem_map.1 hline
  rw [Header.nameOf_line (CanonicalRequest.colon_not_mem_name_of_mem_headersOf hg)] at hname
  rcases CanonicalRequest.mem_headersOf.1 hg with hgen | hsan
  · exact ⟨g, hgen, rfl⟩
  · exact absurd hname (call.meets .reservedHeader g hsan)

/-- Whether the form is read as the lines, and its names as the names, that it is made of. -/
structure ReadsBack (call : AcceptedCall) : Prop where
  lines : call.request.render.splitOn '\n' = call.lines
  names : call.request.signedHeaders.splitOn ';' = call.headers.map Header.name

/-- The form of an accepted call is read as what it is made of just when no line is broken and the
names are plain.  Calls whose lines are whole have the same headers if they have the same form, and
no line names a header set by signing but that header's own. -/
theorem readsBack_iff_and_headers_bound (call : AcceptedCall) :
    (call.ReadsBack ↔ call.Unbroken ∧ call.HasPlainNames) ∧
      (call.Unbroken →
        (∀ other : AcceptedCall, other.Unbroken → other.request.render = call.request.render →
          other.headers = call.headers) ∧
        ∀ line ∈ headerLines call.request.render,
          Header.nameOf line ∈ CanonicalRequest.generatedNames →
            ∃ g ∈ CanonicalRequest.generatedHeaders call.host call.opts, line = g.line) := by
  refine ⟨⟨fun h => ?_, fun h => ?_⟩, fun hu => ⟨fun other hother heq => ?_, fun line hline => ?_⟩⟩
  · exact ⟨splitOn_render_iff.1 h.lines, splitOn_signedHeaders_iff.1 h.names⟩
  · exact ⟨splitOn_render_iff.2 h.1, splitOn_signedHeaders_iff.2 h.2⟩
  · exact headers_eq_of_render_eq hu hother heq
  · exact exists_generated_of_mem_headerLines hu hline

/-- A call with a header that has a plain name and no line break. -/
def noted : AcceptedCall :=
  atMidnight "bucket".toList "object".toList ["X-Note: a  b".toList]
    (eq_ok_of_toBool (by decide +kernel))

/-- The form of a call with a whole header is read back, and names one host. -/
theorem readsBack_noted : noted.ReadsBack ∧
    ∀ line ∈ headerLines noted.request.render, Header.nameOf line = CanonicalRequest.hostName →
      line = "host:storage.googleapis.com".toList := by
  have hentry : Header.ofEntry? "X-Note: a  b".toList = some ⟨"x-note".toList, "a b".toList⟩ := by
    decide +kernel
  have hwhole : noted.Unbroken := by
    refine ⟨by decide, by decide, fun entry hmem h hsome => ?_⟩
    rw [List.mem_singleton.1 hmem, hentry] at hsome
    cases hsome
    decide
  have hplain : noted.HasPlainNames := by
    intro entry hmem h hsome
    rw [List.mem_singleton.1 hmem, hentry] at hsome
    cases hsome
    decide
  obtain ⟨hreads, hbound⟩ := readsBack_iff_and_headers_bound noted
  refine ⟨hreads.2 ⟨hwhole, hplain⟩, fun line hline hname => ?_⟩
  have hgenerated : Header.nameOf line ∈ CanonicalRequest.generatedNames := by
    rw [hname]
    exact List.mem_cons_self
  obtain ⟨g, hg, rfl⟩ := (hbound hwhole).2 line hline hgenerated
  rw [List.mem_singleton.1 hg]
  decide

/-- A call with headers that break lines, one of them with a semicolon in its name. -/
def broken : AcceptedCall :=
  atMidnight "bucket".toList "object".toList
    ["a:1\nhost:evil.example\nb:1".toList, "b;c:2\nc:3".toList]
    (eq_ok_of_toBool (by decide +kernel))

/-- A call whose headers break lines at other places. -/
def brokenElsewhere : AcceptedCall :=
  atMidnight "bucket".toList "object".toList
    ["a:1\nhost:evil.example".toList, "b:1\nb;c:2".toList, "c:3".toList]
    (eq_ok_of_toBool (by decide +kernel))

/-- Where headers break lines the form is not read back, other headers may have the same form, and
a line may name a host that signing has not set. -/
theorem broken_not_readsBack :
    broken.request.render.splitOn '\n' ≠ broken.lines ∧
      broken.request.signedHeaders.splitOn ';' ≠ broken.headers.map Header.name ∧
      broken.request.render = brokenElsewhere.request.render ∧
      broken.headers ≠ brokenElsewhere.headers ∧
      "host:evil.example".toList ∈ headerLines broken.request.render ∧
      ∀ g ∈ CanonicalRequest.generatedHeaders broken.host broken.opts,
        g.line ≠ "host:evil.example".toList := by
  refine ⟨?_, ?_, ?_, ?_, ?_, ?_⟩
  · decide +kernel
  · decide +kernel
  · decide +kernel
  · decide +kernel
  · decide +kernel
  · decide +kernel

end AcceptedCall

end SignedAccess

import LoadHarness.Program
import LoadHarness.Proofs.Header

/-!
# What the check lets through

`Settings.check` and `Settings.plan` judge the same settings, one after the other. Where the check
accepts, the plan finds the target and the sizing as the check did, so that nothing but the headers
is left to fail (`Settings.plan_of_check`). Headers do fail there : the check looks for their colon
only, and a request carries no name but a token and no control character in a value.

A failure of the check is a usage error and is shown as one. One of the plan is a usage error as
well, but it comes when the settings have been shown, and is left to the log
(`Settings.check_and_plan`).
-/

namespace LoadHarness

theorem Route.ofScheme?_of_mem {scheme : String} (h : scheme ∈ Settings.schemes) :
    ∃ way, ofScheme? scheme = some way := by
  simp only [Settings.schemes, List.mem_cons, List.not_mem_nil, or_false] at h
  rcases h with rfl | rfl | rfl | rfl <;> exact ⟨_, rfl⟩

theorem Sizing.eq_of_configure {s s' : Sizing}
    (h : configure s.clients s.requests s.stopOnFailure = .ok s') : s' = s := by
  unfold configure at h
  split at h
  · exact absurd h (by simp)
  · split at h
    · exact absurd h (by simp)
    · exact (Except.ok.inj h).symm

namespace Settings

variable {s : Settings} {e : Failure} {arguments : List String}

/-! ## The check -/

theorem check_eq_ok_iff :
    s.check = .ok () ↔
      s.checkTarget = .ok () ∧ s.checkSizing = .ok () ∧ s.checkTiming = .ok () ∧
        s.checkHeaders = .ok () := by
  unfold check
  cases s.checkTarget <;> cases s.checkSizing <;> cases s.checkTiming <;>
    simp [bind, Except.bind]

theorem parse_of_checkTarget (h : s.checkTarget = .ok ()) :
    ∃ url, Url.parse s.target = .ok url ∧ url.scheme ∈ schemes := by
  unfold checkTarget at h
  cases hu : Url.parse s.target with
  | error e => simp [hu] at h
  | ok url =>
    rw [hu] at h
    dsimp only at h
    split at h
    case isTrue => exact absurd h (by simp)
    case isFalse hs => exact ⟨url, rfl, Decidable.not_not.1 hs⟩

theorem configure_of_checkSizing (h : s.checkSizing = .ok ()) :
    Sizing.configure s.sizing.clients s.sizing.requests s.sizing.stopOnFailure
      = .ok s.sizing := by
  unfold checkSizing at h
  cases hc : Sizing.configure s.sizing.clients s.sizing.requests s.sizing.stopOnFailure with
  | error e => simp [hc, Except.map] at h
  | ok sizing => rw [Sizing.eq_of_configure hc]

theorem customHeaders_of_checkHeaders (h : s.checkHeaders = .ok ()) :
    ∃ pairs, Header.readAll s.headers = .ok pairs ∧ s.customHeaders = .ok pairs := by
  rw [checkHeaders, Header.checkAll_eq_readAll] at h
  rw [customHeaders]
  cases hr : Header.readAll s.headers with
  | error e => simp [hr, Except.map] at h
  | ok pairs => exact ⟨pairs, rfl, rfl⟩

theorem hasColon_of_checkHeaders (h : s.checkHeaders = .ok ()) :
    ∀ text ∈ s.headers, Header.hasColon text = true := by
  unfold checkHeaders Header.checkAll at h
  cases hf : s.headers.find? fun t => !Header.hasColon t with
  | some t => simp [hf] at h
  | none => simpa using hf

/-- The parts of the check come one after the other, and the first that fails is named. -/
theorem of_check_error (h : s.check = .error e) :
    s.checkTarget = .error e ∨ s.checkSizing = .error e ∨ s.checkTiming = .error e ∨
      s.checkHeaders = .error e := by
  unfold check at h
  cases ht : s.checkTarget <;> cases hs : s.checkSizing <;> cases hi : s.checkTiming <;>
    simp_all [bind, Except.bind]

/-- Whatever the check finds is the fault of the invocation. -/
theorem kind_of_check (h : s.check = .error e) :
    ∃ reason, e = .configuration reason ∨ e = .invalidArgument reason := by
  rcases of_check_error h with h | h | h | h
  · grind [checkTarget]
  · grind [checkSizing, Sizing.configure, Except.map]
  · grind [checkTiming]
  · grind [checkHeaders]

/-! ## The plan -/

/-- Where the check accepts, nothing but the headers can keep settings from being a plan. -/
theorem plan_of_check (h : s.check = .ok ()) :
    ∃ url protocol security, Url.parse s.target = .ok url ∧
      Route.ofScheme? url.scheme = some (protocol, security) ∧
      s.plan = s.carriedHeaders.map fun headers => ⟨s, s.sizing, protocol, security, headers⟩ := by
  obtain ⟨htarget, hsizing, -, -⟩ := check_eq_ok_iff.1 h
  obtain ⟨url, hurl, hscheme⟩ := parse_of_checkTarget htarget
  obtain ⟨⟨protocol, security⟩, hway⟩ := Route.ofScheme?_of_mem hscheme
  refine ⟨url, protocol, security, hurl, hway, ?_⟩
  simp only [plan, configure_of_checkSizing hsizing, route, scheme, hurl, hway]
  cases s.carriedHeaders <;> rfl

/-- The headers can be carried up to the first that does not fit. -/
theorem carriedHeaders_of_check (h : s.check = .ok ()) :
    match s.headers.findSome? Header.refusal? with
    | some e => s.carriedHeaders = .error (.configuration e.message)
    | none => ∃ headers, s.carriedHeaders = .ok headers := by
  obtain ⟨-, -, -, hheaders⟩ := check_eq_ok_iff.1 h
  obtain ⟨pairs, hread, hcustom⟩ := customHeaders_of_checkHeaders hheaders
  have hcarry := Header.carryAll_of_readAll hread
  unfold carriedHeaders
  rw [hcustom]
  dsimp only
  cases hf : s.headers.findSome? Header.refusal? with
  | some e =>
    rw [hf] at hcarry
    simp only [hcarry]
  | none =>
    rw [hf] at hcarry
    obtain ⟨headers, hall⟩ := hcarry
    exact ⟨headers, by rw [hall]⟩

theorem findSome?_refusal?_eq_none_iff (h : s.check = .ok ()) :
    s.headers.findSome? Header.refusal? = none ↔ ∀ text ∈ s.headers, Header.Fits text := by
  have hcolon := hasColon_of_checkHeaders (check_eq_ok_iff.1 h).2.2.2
  rw [List.findSome?_eq_none_iff]
  exact forall₂_congr fun text ht => (Header.fits_iff (hcolon text ht)).symm

/-- A plan is one for the settings that it was made of. -/
structure IsPlanOf (s : Settings) (p : Plan) : Prop where
  settings : p.settings = s
  sizing : p.sizing = s.sizing
  way : ∃ url, Url.parse s.target = .ok url ∧
    Route.ofScheme? url.scheme = some (p.route.protocol, p.route.security)

/-- The first header that a request cannot carry, and why. -/
structure IsFirstMisfit (headers : List String) (text : String) (reason : Header.CarryError) :
    Prop where
  first : ∃ before after, headers = before ++ text :: after ∧ ∀ t ∈ before, Header.Fits t
  reason : ∃ pair, Header.split? text = some pair ∧ Header.carry pair = .error reason

/-- If all headers fit, settings that pass the check are a plan. -/
theorem plan_of_fits (h : s.check = .ok ()) (hfits : ∀ text ∈ s.headers, Header.Fits text) :
    ∃ p, s.plan = .ok p ∧ s.IsPlanOf p := by
  obtain ⟨url, protocol, security, hurl, hway, hplan⟩ := plan_of_check h
  have hcarried := carriedHeaders_of_check h
  rw [(findSome?_refusal?_eq_none_iff h).2 hfits] at hcarried
  obtain ⟨headers, hall⟩ := hcarried
  rw [hall] at hplan
  exact ⟨_, hplan, rfl, rfl, url, hurl, hway⟩

/-- Otherwise they are none, because of the first that does not fit. -/
theorem plan_of_misfit (h : s.check = .ok ()) (hmisfit : ¬∀ text ∈ s.headers, Header.Fits text) :
    ∃ text reason, IsFirstMisfit s.headers text reason ∧
      s.plan = .error (.configuration reason.message) := by
  have hcolon := hasColon_of_checkHeaders (check_eq_ok_iff.1 h).2.2.2
  obtain ⟨url, protocol, security, -, -, hplan⟩ := plan_of_check h
  have hcarried := carriedHeaders_of_check h
  rw [← findSome?_refusal?_eq_none_iff h] at hmisfit
  obtain ⟨reason, hf⟩ := Option.ne_none_iff_exists'.1 hmisfit
  obtain ⟨before, text, after, hheaders, htext, hbefore⟩ := List.findSome?_eq_some_iff.1 hf
  rw [hf] at hcarried
  -- A header without a colon would have no refusal, but the check has excluded it.
  refine ⟨text, reason, ⟨⟨before, after, hheaders, fun t ht => ?_⟩, ?_⟩, ?_⟩
  · exact (Header.fits_iff (hcolon t (by simp [hheaders, ht]))).2 (hbefore t ht)
  · exact Header.refusal?_eq_some_iff.1 htext
  · rw [hplan, hcarried]
    rfl

/-! ## Sessions -/

theorem ofCommandLine_eq (h : ofArguments arguments = .ok s) :
    ofCommandLine arguments = s.check.map fun _ => s := by
  simp only [ofCommandLine, h, bind, Except.bind]
  cases s.check <;> rfl

/-- What the check finds is shown as a usage error. -/
theorem session_of_check (h : ofArguments arguments = .ok s) (he : s.check = .error e)
    (build : Plan → Nat → Except Failure Behaviour) (samples : Plan → Nat) :
    Program.session build samples arguments
      = ⟨CommandLine.usageLines ++ [""], [e.text], Program.failed⟩ := by
  have hc : ofCommandLine arguments = .error e := by
    rw [ofCommandLine_eq h, he]
    rfl
  obtain ⟨reason, rfl | rfl⟩ := kind_of_check he <;>
    simp only [Program.session, Program.prepare, hc] <;> rfl

theorem session_of_plan (h : ofArguments arguments = .ok s) (hs : s.check = .ok ())
    (build : Plan → Nat → Except Failure Behaviour) (samples : Plan → Nat) :
    Program.session build samples arguments
      = match s.plan with
        | .error _ => ⟨s.summary, [], Program.failed⟩
        | .ok p => Program.finish s (Run.record p (build p) (samples p)) := by
  have hc : ofCommandLine arguments = .ok s := by
    rw [ofCommandLine_eq h, hs]
    rfl
  cases hp : s.plan <;> simp only [Program.session, Program.prepare, hc, hp]

/-- How the check and the plan of the same settings agree. Whatever the check finds is a usage
error, and is shown as one. Where it accepts, there is a plan of the settings if all headers fit,
and a run of it. If they do not, the first that does not fit is a usage error as well, but what is
shown are the settings and no usage. -/
theorem check_and_plan (s : Settings) :
    (∀ e, s.check = .error e → e.isUsage = true ∧
      ∀ arguments, ofArguments arguments = .ok s → ∀ build samples,
        Program.session build samples arguments
          = ⟨CommandLine.usageLines ++ [""], [e.text], Program.failed⟩) ∧
    (s.check = .ok () → (∀ text ∈ s.headers, Header.Fits text) →
      ∃ p, s.plan = .ok p ∧ s.IsPlanOf p ∧
        ∀ arguments, ofArguments arguments = .ok s → ∀ build samples,
          Program.session build samples arguments
            = Program.finish s (Run.record p (build p) (samples p))) ∧
    (s.check = .ok () → ¬(∀ text ∈ s.headers, Header.Fits text) →
      ∃ text reason e, IsFirstMisfit s.headers text reason ∧
        e = .configuration reason.message ∧ s.plan = .error e ∧ e.isUsage = true ∧
        ∀ arguments, ofArguments arguments = .ok s → ∀ build samples,
          Program.session build samples arguments = ⟨s.summary, [], Program.failed⟩) := by
  refine ⟨fun e he => ⟨?_, fun arguments h => session_of_check h he⟩, fun hs hfits => ?_,
    fun hs hmisfit => ?_⟩
  · obtain ⟨reason, rfl | rfl⟩ := kind_of_check he <;> rfl
  · obtain ⟨p, hp, hof⟩ := plan_of_fits hs hfits
    refine ⟨p, hp, hof, fun arguments h build samples => ?_⟩
    rw [session_of_plan h hs, hp]
  · obtain ⟨text, reason, hfirst, hp⟩ := plan_of_misfit hs hmisfit
    refine ⟨text, reason, _, hfirst, rfl, hp, rfl, fun arguments h build samples => ?_⟩
    rw [session_of_plan h hs, hp]

theorem check_of_toOption (h : s.check.toOption = some ()) : s.check = .ok () := by
  cases hc : s.check with
  | ok u => rfl
  | error e => simp [hc, Except.toOption] at h

/-- Settings with a header that a request can carry. -/
def wellNamed : Settings := { ofTarget "http://[::1]/" with headers := ["X-Run: 42"] }

theorem check_and_plan_wellNamed :
    wellNamed.check = .ok () ∧ (∀ text ∈ wellNamed.headers, Header.Fits text) ∧
      ∃ p, wellNamed.plan = .ok p ∧ wellNamed.IsPlanOf p := by
  have hs : wellNamed.check = .ok () := check_of_toOption (by decide +kernel)
  have hfits : ∀ text ∈ wellNamed.headers, Header.Fits text :=
    (findSome?_refusal?_eq_none_iff hs).1 (by decide +kernel)
  obtain ⟨p, hp, hof, -⟩ := (check_and_plan wellNamed).2.1 hs hfits
  exact ⟨hs, hfits, p, hp, hof⟩

/-- Settings with a header whose name is no token. -/
def badlyNamed : Settings := { ofTarget "http://[::1]/" with headers := ["Bad Header: x"] }

/-- They pass the check and are no plan, and the session does not say that the invocation was at
fault. -/
theorem plan_badlyNamed :
    let reason := "Invalid header name: Bad Header: invalid HTTP header name"
    badlyNamed.check = .ok () ∧ badlyNamed.plan = .error (.configuration reason) ∧
      (Failure.configuration reason).isUsage = true ∧
      ∀ build samples, Program.session build samples ["http://[::1]/", "-H", "Bad Header: x"]
        = ⟨badlyNamed.summary, [], Program.failed⟩ := by
  intro reason
  have hs : badlyNamed.check = .ok () := check_of_toOption (by decide +kernel)
  have hf : badlyNamed.headers.findSome? Header.refusal? = some (.badName "Bad Header") := by
    decide +kernel
  have hread : (ofArguments ["http://[::1]/", "-H", "Bad Header: x"]).toOption
      = some badlyNamed := by
    decide +kernel
  obtain ⟨url, protocol, security, -, -, hplan⟩ := plan_of_check hs
  have hcarried := carriedHeaders_of_check hs
  rw [hf] at hcarried
  rw [hcarried] at hplan
  refine ⟨hs, hplan, rfl, fun build samples => ?_⟩
  cases hc : ofArguments ["http://[::1]/", "-H", "Bad Header: x"] with
  | error e => simp [hc, Except.toOption] at hread
  | ok s =>
    obtain rfl : s = badlyNamed := by simpa [hc, Except.toOption] using hread
    rw [session_of_plan hc hs, hplan]
    rfl

end Settings

end LoadHarness

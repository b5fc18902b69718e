import Admission.Proofs.Service.Request

set_option autoImplicit false

/-!
# The life of a service

A service is asked about connections, given other settings and shut down, in any order
and any number of times.  What it says where no worker is asked follows from its
settings and its state alone, and its counts add up after every request that came to a
verdict.
-/

namespace Admission

open Attempt

/-! ## The books -/

/-- What became of a request: what the settings said of it, and the verdict. -/
structure Asked where
  precheck : Precheck
  verdict : Verdict
  deriving DecidableEq, Repr, Inhabited

namespace Asked

/-- The settings decided. -/
def exempt (a : Asked) : Bool :=
  a.precheck ≠ .queue

/-- The connection may go ahead. -/
def proceeds (a : Asked) : Bool :=
  a.verdict = .proceed

end Asked

namespace Tally

/-- The tally after a request, which may have taken too long. -/
def after (l : Tally) (a : Asked) (late : Bool) : Tally where
  requests := l.requests + 1
  proceeded := if a.proceeds then l.proceeded + 1 else l.proceeded
  aborted := if a.proceeds then l.aborted else l.aborted + 1
  skipped := if a.exempt then l.skipped + 1 else l.skipped
  timeouts := if late then l.timeouts + 1 else l.timeouts

/-- A request that the settings decide is counted as skipped and as one that proceeded. -/
theorem after_of_exempt (l : Tally) {a : Asked} (h : a.exempt = true) (hp : a.proceeds = true) :
    l.after a false = ((l.count .requests).count .skipped).count .proceeded := by
  simp [after, h, hp, count]

/-- Any other is counted by its verdict. -/
theorem after_of_not_exempt (l : Tally) {a : Asked} (h : a.exempt = false) (late : Bool) :
    l.after a late =
      (if late then (l.count .requests).count .timeouts else l.count .requests).count
        a.verdict.counter := by
  obtain ⟨check, verdict⟩ := a
  cases verdict <;> cases late <;> simp [after, h, count, Asked.proceeds, Verdict.counter]

/-- The tally counts these requests, as far as its words hold so many. -/
structure Books (l : Tally) (asked : List Asked) : Prop where
  requests_eq : l.requests = .ofNat asked.length
  proceeded_eq : l.proceeded = .ofNat (asked.countP Asked.proceeds)
  aborted_eq : l.aborted = .ofNat (asked.countP fun a => !a.proceeds)
  skipped_eq : l.skipped = .ofNat (asked.countP Asked.exempt)
  /-- What the settings decide proceeds. -/
  proceeds : ∀ a ∈ asked, a.exempt = true → a.proceeds = true
  /-- Only what was aborted took too long. -/
  timeouts_eq : ∃ late ≤ asked.countP fun a => !a.proceeds, l.timeouts = .ofNat late

theorem Books.nil : ({} : Tally).Books [] where
  requests_eq := rfl
  proceeded_eq := rfl
  aborted_eq := rfl
  skipped_eq := rfl
  proceeds := by simp
  timeouts_eq := ⟨0, Nat.le_refl 0, rfl⟩

namespace Books

variable {l : Tally} {asked : List Asked}

/-- One more request of which this is so or not is counted or not. -/
theorem ofNat_countP_concat (p : Asked → Bool) (asked : List Asked) (a : Asked) :
    UInt64.ofNat ((asked ++ [a]).countP p) =
      if p a then UInt64.ofNat (asked.countP p) + 1 else UInt64.ofNat (asked.countP p) := by
  rw [List.countP_append, List.countP_singleton]
  split
  · exact UInt64.ofNat_add _ _
  · rfl

/-- A request keeps the books, if one that is exempt proceeds and one that took too long
does not. -/
theorem after (h : l.Books asked) {a : Asked} {late : Bool}
    (hexempt : a.exempt = true → a.proceeds = true) (hlate : late = true → a.proceeds = false) :
    (l.after a late).Books (asked ++ [a]) where
  requests_eq := by
    rw [List.length_append]
    exact (congrArg (· + 1) h.requests_eq).trans (UInt64.ofNat_add _ _).symm
  proceeded_eq := by
    rw [ofNat_countP_concat, ← h.proceeded_eq]
    rfl
  aborted_eq := by
    rw [ofNat_countP_concat, ← h.aborted_eq]
    cases hp : a.proceeds <;> simp [Tally.after, hp]
  skipped_eq := by
    rw [ofNat_countP_concat, ← h.skipped_eq]
    rfl
  proceeds := by
    intro b hb
    obtain hb | hb := List.mem_append.mp hb
    · exact h.proceeds b hb
    · rw [List.mem_singleton.mp hb]
      exact hexempt
  timeouts_eq := by
    obtain ⟨n, hn, htimeouts⟩ := h.timeouts_eq
    rw [List.countP_append, List.countP_singleton]
    cases hl : late with
    | true =>
      refine ⟨n + 1, by simp [hlate hl, hn], ?_⟩
      exact (congrArg (· + 1) htimeouts).trans (UInt64.ofNat_add _ _).symm
    | false => exact ⟨n, Nat.le_add_right_of_le hn, htimeouts⟩

/-- Every request proceeded or was aborted. -/
theorem balance (h : l.Books asked) : l.requests = l.proceeded + l.aborted := by
  rw [h.requests_eq, h.proceeded_eq, h.aborted_eq, ← UInt64.ofNat_add]
  exact congrArg UInt64.ofNat (by
    simpa using asked.length_eq_countP_add_countP Asked.proceeds)

/-- As long as the words hold the number of requests, no more were skipped than proceeded,
and no more took too long than were aborted. -/
theorem bounds (h : l.Books asked) (hfew : asked.length < UInt64.size) :
    l.skipped ≤ l.proceeded ∧ l.timeouts ≤ l.aborted := by
  have hword : ∀ m n : Nat, m ≤ n → n ≤ asked.length → UInt64.ofNat m ≤ UInt64.ofNat n := by
    intro m n hmn hn
    have hsize : n < UInt64.size := Nat.lt_of_le_of_lt hn hfew
    rw [UInt64.le_iff_toNat_le, UInt64.toNat_ofNat_of_lt' (Nat.lt_of_le_of_lt hmn hsize),
      UInt64.toNat_ofNat_of_lt' hsize]
    exact hmn
  constructor
  · rw [h.skipped_eq, h.proceeded_eq]
    exact hword _ _ (List.countP_mono_left h.proceeds) List.countP_le_length
  · obtain ⟨n, hn, htimeouts⟩ := h.timeouts_eq
    rw [htimeouts, h.aborted_eq]
    exact hword _ _ hn List.countP_le_length

end Books

end Tally

/-! ## Requests and the books -/

namespace Site

variable {name : String} {e : Errand} {s s' : Site} {verdict : Verdict}

/-- What an errand came to at a service. -/
def asked (s : Site) (name : String) (e : Errand) (verdict : Verdict) : Asked :=
  ⟨precheck (s.clientauth name) e.connection, verdict⟩

/-- To route a connection to a verdict counts nothing, or that it took too long, and then
the connection is rejected. -/
theorem fronts_route {f : Front} (h : route name e f s = (.done verdict, s')) :
    s'.fronts = s.fronts ∨
      (∃ reason : String, verdict = .abort reason) ∧
        s'.fronts = Function.update s.fronts name ((s.fronts name).count .timeouts) := by
  unfold route at h
  cases hstate : f.state with
  | running =>
    cases htable : f.table with
    | some t => rw [hstate, htable] at h; exact fronts_roundTrip h
    | none => rw [hstate, htable] at h; cases h; exact .inl rfl
  | attached =>
    cases htable : f.table with
    | some t => rw [hstate, htable] at h; exact fronts_roundTrip h
    | none => rw [hstate, htable] at h; cases h; exact .inl rfl
  | exhausted => rw [hstate] at h; cases h; exact .inl rfl
  | disabled => rw [hstate] at h; cases h; exact .inl rfl
  | stopped => rw [hstate] at h; cases h; exact .inl rfl

/-- A request that comes to a verdict changes the tally of its service alone. -/
theorem fronts_ask (h : ask name e s = (.done verdict, s')) :
    ∃ late : Bool,
      ((s.asked name e verdict).exempt = true → (s.asked name e verdict).proceeds = true) ∧
      (late = true → (s.asked name e verdict).proceeds = false) ∧
      s'.fronts = Function.update s.fronts name
        { s.fronts name with
          tally := (s.fronts name).tally.after (s.asked name e verdict) late } := by
  by_cases hcheck : precheck (s.clientauth name) e.connection = .queue
  · have hexempt : (s.asked name e verdict).exempt = false := by simp [Asked.exempt, asked, hcheck]
    rw [ask_of_queue hcheck] at h
    obtain ⟨verdict', s₁, hroute, h⟩ := bind_eq_done_iff.mp h
    obtain ⟨lines, s₂, hreport, -, hfronts₂⟩ := report_run name e.connection verdict' s₁
    rw [bind_of_done hreport] at h
    cases h
    have hcounted := fronts_counted s name .requests
    obtain hfronts₁ | ⟨⟨reason, rfl⟩, hfronts₁⟩ := fronts_route hroute
    · refine ⟨false, by simp [hexempt], by simp, ?_⟩
      rw [hfronts₂, hfronts₁, hcounted, Function.update_self, Function.update_idem,
        Tally.after_of_not_exempt _ hexempt]
      rfl
    · refine ⟨true, by simp [hexempt], by simp [Asked.proceeds, asked], ?_⟩
      rw [hfronts₂, hfronts₁, hcounted, Function.update_self, Function.update_self,
        Function.update_idem, Function.update_idem, Tally.after_of_not_exempt _ hexempt]
      rfl
  · have hexempt : (s.asked name e .proceed).exempt = true := by simp [Asked.exempt, asked, hcheck]
    obtain ⟨lines, s₁, hask, -, hfronts⟩ := ask_of_exempt hcheck
    rw [hask] at h
    cases h
    have hproceeds : (s.asked name e .proceed).proceeds = true := by simp [Asked.proceeds, asked]
    refine ⟨false, fun _ => hproceeds, by simp, ?_⟩
    rw [hfronts, Tally.after_of_exempt _ hexempt hproceeds]
    rfl

/-- A connection that the settings decide proceeds. -/
theorem tells_of_exempt (h : precheck (s.clientauth name) e.connection ≠ .queue) :
    s.Tells name e .proceed := by
  obtain ⟨lines, s₁, hask, hhost, -⟩ := ask_of_exempt h
  exact ⟨lines, s₁, hask, hhost⟩

/-- Where a connection that queues is routed to no table, that is the verdict. -/
theorem tells_of_route (h : precheck (s.clientauth name) e.connection = .queue)
    (hroute : route name e (s.fronts name) = pure verdict) : s.Tells name e verdict := by
  obtain ⟨lines, s₁, hreport, hhost, -⟩ :=
    report_run name e.connection verdict (s.counted name .requests)
  refine ⟨lines, s₁, ?_, hhost⟩
  rw [ask_of_queue h, hroute, bind_of_done (pure_apply _ _), bind_of_done hreport]
  rfl

end Site

/-! ## The run -/

/-- The service of a name was started or attached with these settings, and what it was
asked since came to this. -/
inductive Lives (name : String) (startup : Settings) : List Asked → Site → Prop
  | started {s : Site} (h : (s.launch name (Service.start startup)).1.isOk = true) :
      Lives name startup [] (s.launch name (Service.start startup)).2
  | attached {s : Site} (h : (s.launch name (Service.attach startup)).1.isOk = true) :
      Lives name startup [] (s.launch name (Service.attach startup)).2
  | ask {asked : List Asked} {s s' : Site} {e : Errand} {verdict : Verdict}
      (run : Lives name startup asked s) (h : Site.ask name e s = (.done verdict, s')) :
      Lives name startup (asked ++ [s.asked name e verdict]) s'
  | reload {asked : List Asked} {s : Site} (run : Lives name startup asked s) (next : Settings) :
      Lives name startup asked (s.reload name next)
  | shutdown {asked : List Asked} {s : Site} (run : Lives name startup asked s) :
      Lives name startup asked (s.shutdown name)
  /-- Whatever else goes on at the site: pools work, other services are asked and ended. -/
  | elsewhere {asked : List Asked} {s s' : Site} (run : Lives name startup asked s)
      (h : s'.fronts name = s.fronts name) : Lives name startup asked s'

/-- What a front keeps while its service is asked and reloaded. -/
structure Front.Keeps (startup : Settings) (asked : List Asked) (f : Front) : Prop where
  startup_eq : f.settings.startup = startup
  /-- A service that was off at startup stays off, and has no table. -/
  off : startup.clientauth.mode = .off →
    f.settings.current.clientauth.mode = .off ∧ f.table = none
  books : f.tally.Books asked

namespace Front.Keeps

variable {startup : Settings} {asked : List Asked} {f : Front}

theorem of_fresh {service : Service} (h : service.Fresh startup) :
    service.front.Keeps startup [] where
  startup_eq := congrArg LiveSettings.startup h.settings_eq
  off hoff := ⟨(congrArg (·.current.clientauth.mode) h.settings_eq).trans hoff, h.table_eq hoff⟩
  books := by
    show service.metrics.tally.Books []
    rw [h.metrics_eq]
    exact .nil

theorem ask (h : f.Keeps startup asked) {a : Asked} {late : Bool}
    (hexempt : a.exempt = true → a.proceeds = true) (hlate : late = true → a.proceeds = false) :
    { f with tally := f.tally.after a late }.Keeps startup (asked ++ [a]) where
  startup_eq := h.startup_eq
  off := h.off
  books := h.books.after hexempt hlate

theorem submit (h : f.Keeps startup asked) (next : Settings) :
    { f with settings := f.settings.submit next }.Keeps startup asked := by
  by_cases hvalid : next.Valid
  · rw [LiveSettings.submit_of_valid hvalid]
    refine ⟨h.startup_eq, fun hoff => ⟨?_, (h.off hoff).2⟩, h.books⟩
    simp [Settings.pinned, h.startup_eq, hoff]
  · rw [LiveSettings.submit_of_not_valid hvalid]
    exact ⟨h.startup_eq, h.off, h.books⟩

theorem shutdown (h : f.Keeps startup asked) :
    { f with state := .stopped, ownsPool := false }.Keeps startup asked :=
  ⟨h.startup_eq, h.off, h.books⟩

end Front.Keeps

theorem Lives.keeps {name : String} {startup : Settings} {asked : List Asked} {s : Site}
    (run : Lives name startup asked s) : (s.fronts name).Keeps startup asked := by
  induction run with
  | started h =>
    obtain ⟨service, h', hstart, hfront⟩ := Site.fronts_launch h
    rw [hfront]
    exact .of_fresh (Service.start_fresh hstart)
  | attached h =>
    obtain ⟨service, h', hattach, hfront⟩ := Site.fronts_launch h
    rw [hfront]
    exact .of_fresh (Service.attach_fresh hattach)
  | ask _ h ih =>
    obtain ⟨late, hexempt, hlate, hfronts⟩ := Site.fronts_ask h
    rw [hfronts, Function.update_self]
    exact ih.ask hexempt hlate
  | reload _ next ih =>
    rw [Site.fronts_reload, Function.update_self]
    exact ih.submit next
  | shutdown _ ih =>
    rw [Site.fronts_shutdown, Function.update_self]
    split
    · exact ih
    · exact ih.shutdown
  | elsewhere _ h ih =>
    rw [h]
    exact ih

/-! ## The lifecycle -/

/-- What holds of a service that was started or attached with these settings and asked
this since. -/
structure Lifecycle (name : String) (startup : Settings) (asked : List Asked) (s : Site) :
    Prop where
  /-- A service that was off at startup lets everything proceed, and has no table. -/
  off : startup.clientauth.mode = .off →
    (s.service name).table = none ∧ ∀ e : Errand, s.Tells name e .proceed
  /-- In every state, who is listed proceeds, and while the hook is off all do. -/
  listed : ∀ e : Errand,
    e.connection.user ∈ (s.clientauth name).usersToSkip.entries ∨
      e.connection.database ∈ (s.clientauth name).databasesToSkip.entries ∨
      (s.clientauth name).mode = .off → s.Tells name e .proceed
  /-- Without workers, and after the shutdown, nobody else does. -/
  exhausted : (s.service name).state = .exhausted →
    ∀ e : Errand, precheck (s.clientauth name) e.connection = .queue →
      s.Tells name e (.abort Service.poolExhausted)
  stopped : (s.service name).state = .stopped →
    ∀ e : Errand, precheck (s.clientauth name) e.connection = .queue →
      s.Tells name e (.abort Service.poolStopped)
  /-- A shutdown stops the service, and neither a request nor a reload nor another
  shutdown changes that. -/
  shutdown : ((s.shutdown name).service name).state = .stopped
  final : (s.service name).state = .stopped →
    (∀ next : Settings, ((s.reload name next).service name).state = .stopped) ∧
      ∀ (e : Errand) (verdict : Verdict) (s' : Site),
        Site.ask name e s = (.done verdict, s') → (s'.service name).state = .stopped
  /-- Every request is counted, and so is whether it proceeded or was aborted. -/
  balance : (s.service name).metrics.requests = .ofNat asked.length ∧
    (s.service name).metrics.requests =
      (s.service name).metrics.proceeded + (s.service name).metrics.aborted
  /-- Exactly those that the settings decided are counted as skipped. -/
  skipped : (s.service name).metrics.skipped = .ofNat (asked.countP Asked.exempt) ∧
    ∀ a ∈ asked, a.exempt = true → a.proceeds = true
  /-- No more took too long than were aborted. -/
  timeouts : ∃ late ≤ asked.countP fun a => !a.proceeds,
    (s.service name).metrics.timeouts = .ofNat late
  /-- The counts compare so as long as their words hold the number of requests. -/
  bounds : asked.length < UInt64.size →
    (s.service name).metrics.skipped ≤ (s.service name).metrics.proceeded ∧
      (s.service name).metrics.timeouts ≤ (s.service name).metrics.aborted

/-- Whatever a service is asked, however it is reloaded, and whenever it is shut down,
this holds after every call. -/
theorem Lives.lifecycle {name : String} {startup : Settings} {asked : List Asked} {s : Site}
    (run : Lives name startup asked s) : Lifecycle name startup asked s := by
  have hkeeps := run.keeps
  have hlisted : ∀ e : Errand,
      e.connection.user ∈ (s.clientauth name).usersToSkip.entries ∨
        e.connection.database ∈ (s.clientauth name).databasesToSkip.entries ∨
        (s.clientauth name).mode = .off → s.Tells name e .proceed := by
    intro e h
    refine Site.tells_of_exempt fun hqueue => ?_
    obtain ⟨huser, hdatabase, hon⟩ := precheck_eq_queue_iff.mp hqueue
    exact h.elim huser (·.elim hdatabase hon)
  refine
    { off := fun hoff => ⟨(hkeeps.off hoff).2, fun e => hlisted e (.inr (.inr (hkeeps.off hoff).1))⟩
      listed := hlisted
      exhausted := fun hstate e hqueue => Site.tells_of_route hqueue ?exhausted
      stopped := fun hstate e hqueue => Site.tells_of_route hqueue ?stopped
      shutdown := ?shutdown
      final := fun hstate => ⟨fun next => ?reload, fun e verdict s' hask => ?ask⟩
      balance := ⟨hkeeps.books.requests_eq, hkeeps.books.balance⟩
      skipped := ⟨hkeeps.books.skipped_eq, hkeeps.books.proceeds⟩
      timeouts := hkeeps.books.timeouts_eq
      bounds := hkeeps.books.bounds }
  case exhausted =>
    rw [Site.route, show (s.fronts name).state = .exhausted from hstate]
  case stopped =>
    rw [Site.route, show (s.fronts name).state = .stopped from hstate]
  case shutdown =>
    show ((s.shutdown name).fronts name).state = .stopped
    rw [Site.fronts_shutdown, Function.update_self]
    split
    · next hstopped => exact hstopped
    · rfl
  case reload =>
    show ((s.reload name next).fronts name).state = .stopped
    rw [Site.fronts_reload, Function.update_self]
    exact hstate
  case ask =>
    obtain ⟨late, -, -, hfronts⟩ := Site.fronts_ask hask
    show (s'.fronts name).state = .stopped
    rw [hfronts, Function.update_self]
    exact hstate

/-- A hook that asks for two workers, on a host that runs one. -/
def understaffed : Settings :=
  { clientauth := { mode := .on, slots := 8 }, host := { maxWorkerProcesses := 1 } }

/-- The site after the start of a service with this hook. -/
def understaffedSite : Site :=
  (Site.launch { host := { processes := ⟨7, [7]⟩ } } "main" (Service.start understaffed)).2

/-- A request before the shutdown and one after it are both aborted, and so counted. -/
theorem lifecycle_understaffed :
    ∃ s : Site,
      Lives "main" understaffed
        [⟨.queue, .abort Service.poolExhausted⟩, ⟨.queue, .abort Service.poolStopped⟩] s ∧
      (s.service "main").metrics.requests = 2 ∧ (s.service "main").metrics.aborted = 2 ∧
      (s.service "main").state = .stopped := by
  let e : Errand := ⟨7, 7, {}, 0⟩
  have run₀ : Lives "main" understaffed [] understaffedSite := .started (by decide +kernel)
  have hqueue₀ : precheck (understaffedSite.clientauth "main") e.connection = .queue := by
    decide +kernel
  obtain ⟨-, s₁, hask₁, -⟩ := run₀.lifecycle.exhausted (by decide +kernel) e hqueue₀
  obtain rfl : s₁ = (Site.ask "main" e understaffedSite).2 := congrArg Prod.snd hask₁.symm
  have run₂ := (run₀.ask hask₁).shutdown
  have hqueue₂ : precheck (((Site.ask "main" e understaffedSite).2.shutdown "main").clientauth
      "main") e.connection = .queue := by
    decide +kernel
  obtain ⟨-, s₃, hask₃, -⟩ := run₂.lifecycle.stopped (by decide +kernel) e hqueue₂
  have run₃ := run₂.ask hask₃
  obtain rfl := congrArg Prod.snd hask₃.symm
  rw [Site.asked, Site.asked, hqueue₀, hqueue₂] at run₃
  exact ⟨_, run₃, by decide +kernel, by decide +kernel, by decide +kernel⟩

end Admission

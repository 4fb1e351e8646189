import ServiceHost.Connections.Listener
import ServiceHost.Host.Pages
import ServiceHost.Proofs.Lifecycle.Completion
import ServiceHost.Session.Writer
import ServiceHost.Settings.Validation

/-!
# What valid settings can run

A host computes four things from its settings that can break it down: the permits of its listener,
the place of its gateway, the first sign of life of a session and the deadline of a shutdown.  Valid
settings keep a session from a period of zero, and a path from ending in a slash.  Beyond that each
of the four has a limit of its own, and succeeds exactly within it (`Settings.valid_runs_iff`); none
of the limits is checked (`Settings.valid_beyond_every_limit`).
-/

namespace ServiceHost

/-! ## The place of the gateway -/

/-- A character in front of a slash is a character of the path. -/
theorem exists_of_append_slash {path rest back : List Char} {c : Char} (hc : c ≠ '/')
    (h : path ++ '/' :: rest = c :: back) : ∃ behind, path = c :: behind := by
  cases path with
  | nil => exact (hc (List.cons.inj h).1.symm).elim
  | cons first path => exact ⟨path, by rw [(List.cons.inj h).1]⟩

/-- A name that starts with an asterisk ends the path. -/
theorem bracesMatch_asterisk_slash (path rest : List Char) :
    bracesMatch .outside ('\x7b' :: '*' :: (path ++ '/' :: rest)) = false := by
  simp only [bracesMatch]
  cases rest with
  | nil => simp
  | cons c rest => simp [List.dropLast_append_of_ne_nil]

/-- What stands behind a slash is read anew. -/
theorem bracesMatch_append_slash (scan : BraceScan) (path rest : List Char) :
    bracesMatch scan (path ++ '/' :: rest) =
      (bracesMatch scan (path ++ ['/']) && bracesMatch .outside rest) := by
  -- the scan looks one character ahead of a brace, which is a slash where the path ends
  induction scan, path using bracesMatch.induct with
  | case1 path ih => simp only [List.cons_append, bracesMatch, ih]
  | case2 path ih => simp only [List.cons_append, bracesMatch, ih]
  | case3 path => simp only [List.cons_append, bracesMatch_asterisk_slash, Bool.false_and]
  | case4 path hbrace hstar ih =>
      have hopens : ∀ more, bracesMatch .outside ('\x7b' :: (path ++ '/' :: more)) =
          bracesMatch (.inside 0) (path ++ '/' :: more) := by
        intro more
        rw [bracesMatch]
        · intro back hback
          exact (exists_of_append_slash (by decide) hback).elim hbrace
        · intro back hback
          exact (exists_of_append_slash (by decide) hback).elim hstar
      rw [List.cons_append, List.cons_append, hopens, hopens, ih]
  | case5 path hbrace =>
      have hcloses : ∀ more, bracesMatch .outside ('\x7d' :: (path ++ '/' :: more)) = false := by
        intro more
        rw [bracesMatch]
        intro back hback
        exact (exists_of_append_slash (by decide) hback).elim hbrace
      rw [List.cons_append, List.cons_append, hcloses, hcloses, Bool.false_and]
  | case6 c path _ _ _ hopen hclose ih =>
      rw [List.cons_append, List.cons_append, bracesMatch, ih, bracesMatch]
      all_goals grind
  | case7 => simp [bracesMatch]
  | case8 length path ih => simp [bracesMatch, ih, Bool.and_assoc]
  | case9 length c path hc ih => simp [bracesMatch, ih, Bool.and_assoc]
  | case10 length => simp [bracesMatch]
  | case11 path ih => simp [bracesMatch, ih]
  | case12 => simp [bracesMatch]
  | case13 path hslash hnil =>
      cases path with
      | nil => exact (hnil rfl).elim
      | cons c path =>
          have hc : c ≠ '/' := fun h => hslash path (by rw [h])
          simp [bracesMatch, hc]

/-- **Where a gateway can stand**: exactly where a path with one more slash is routable. -/
theorem isRoutable_pattern (path : String) (hpath : Settings.isMountPath path = true) :
    isRoutable (Mount.pattern path) = isRoutable (path ++ "/") := by
  have hends : path.toList.head? = some '/' ∧ path.toList.getLast? ≠ some '/' := by
    simpa [Settings.isMountPath] using hpath
  have hhead : ∀ more, (path ++ more).toList.head? = some '/' := by
    intro more
    rw [String.toList_append, List.head?_append, hends.1, Option.some_or]
  -- a path that does not end in a slash has none to be trimmed
  have htrimmed : Mount.trimmedPath path = path := by
    have hlast := hends.2
    rw [List.getLast?_eq_head?_reverse] at hlast
    cases hreverse : path.toList.reverse with
    | nil =>
        rw [List.reverse_eq_nil_iff.mp hreverse] at hends
        exact absurd hends.1 (by simp)
    | cons c front =>
        have hc : c ≠ '/' := by simpa [hreverse] using hlast
        rw [Mount.trimmedPath, hreverse, List.dropWhile_cons_of_neg (by simpa using hc), ← hreverse,
          List.reverse_reverse, String.ofList_toList]
  have hsplit : ∀ more, splitText '/' (path ++ ("/" ++ more)) =
      splitText '/' path ++ splitText '/' more := by
    intro more
    simp [splitText, List.splitOn_append_cons_self]
  have hbraces : ∀ more, bracesMatch .outside (path ++ ("/" ++ more)).toList =
      (bracesMatch .outside (path.toList ++ ['/']) && bracesMatch .outside more.toList) := by
    intro more
    simpa using bracesMatch_append_slash .outside path.toList more.toList
  rw [Mount.pattern, htrimmed, show "/\x7b*path\x7d" = "/" ++ "\x7b*path\x7d" from rfl,
    show path ++ "/" = path ++ ("/" ++ "") from rfl]
  simp only [isRoutable, hhead, hsplit, hbraces, List.all_append]
  rfl

/-! ## The clocks -/

namespace Session.Writer

/-- A session comes to wait exactly if its period is positive and the clock counts to the first sign
of life. -/
theorem setClocks_waiting_iff (w : Writer) (now : Nat) :
    (w.setClocks now).1.phase = .waiting ↔
      w.options.keepAlive ≠ 0 ∧ Clock.reaches (now + w.options.keepAlive) = true := by
  unfold setClocks
  cases Clock.reaches (now + w.options.keepAlive) with
  | false => simp [breakDown, finish]
  | true => by_cases hzero : w.options.keepAlive = 0 <;> simp [breakDown, finish, hzero]

end Session.Writer

theorem Clock.reaches_seconds (now seconds : Nat) :
    Clock.reaches (now + seconds * 1000) = true ↔ now / 1000 + seconds < Clock.range := by
  rw [Clock.reaches, decide_eq_true_iff, Nat.add_mul_div_right _ _ (by decide)]

/-! ## Valid settings -/

namespace Settings

variable {settings : Settings}

theorem problemUnless_eq_nil {good : Bool} {field message : String} :
    problemUnless good field message = [] ↔ good = true := by
  cases good <;> simp [problemUnless]

/-- Settings are valid if no part of them has a problem. -/
theorem isValid_iff :
    settings.isValid = true ↔
      listenerProblems settings.listener = [] ∧ gatewayProblems settings.gateway = [] ∧
      rpcProblems settings.rpc = [] ∧ settings.http.requestTimeoutSecs ≠ 0 ∧
      streamingProblems settings.streaming = [] ∧ settings.shutdown.timeoutSecs ≠ 0 ∧
      observabilityProblems settings.observability = [] ∧
      logShippingProblems settings.logShipping = [] := by
  simp only [isValid, problems, List.isEmpty_iff, List.append_eq_nil_iff, problemUnless_eq_nil,
    bne_iff_ne, and_assoc]

theorem isMountPath_of_isValid (hvalid : settings.isValid = true) :
    isMountPath settings.gateway.mountPath = true := by
  have hgateway := (isValid_iff.mp hvalid).2.1
  rw [gatewayProblems, List.append_eq_nil_iff, problemUnless_eq_nil] at hgateway
  exact hgateway.1

theorem keepAliveSecs_ne_zero_of_isValid (hvalid : settings.isValid = true) :
    settings.streaming.keepAliveSecs ≠ 0 := by
  have hstreaming := (isValid_iff.mp hvalid).2.2.2.2.1
  rw [streamingProblems, List.append_eq_nil_iff, problemUnless_eq_nil, bne_iff_ne] at hstreaming
  exact hstreaming.1

/-- **What valid settings can run.**  Of what a host computes from valid settings at some moment, the
permits of the listener, the place of the gateway, the clocks of a session and the deadline of a
shutdown, each succeeds exactly within its limit: there are not more permits than there can be, the
path of the gateway is routable with one more slash, and the clock counts to the moment.  A shutdown
without its deadline does not cancel what is still running. -/
theorem valid_runs_iff (settings : Settings) (hvalid : settings.isValid = true) (now : Nat)
    (address : SocketAddress) (gateway : Gateway) (w : Session.Writer)
    (hw : w.options = .ofSettings settings.streaming) (plan : ShutdownPlan)
    (hplan : plan.recordsSentAt = now) (hmodules : ∀ module ∈ plan.modules, module.breakdown? = none)
    (cancelAt : Option Nat) :
    ((Listener.ofSocket address settings.listener.maxConnections.toNat).isOk ↔
      settings.listener.maxConnections.toNat ≤ Listener.permitLimit) ∧
    ((Mount.make? settings.gateway.mountPath gateway).isSome ↔
      isRoutable (settings.gateway.mountPath ++ "/") = true) ∧
    ((w.setClocks now).1.phase = .waiting ↔
      now / 1000 + settings.streaming.keepAliveSecs.toNat < Clock.range) ∧
    ((ShutdownRun.run plan (settings.shutdown.timeoutSecs.toNat * 1000) cancelAt).report.isSome ↔
      now / 1000 + settings.shutdown.timeoutSecs.toNat < Clock.range) ∧
    (.rootTriggered ∈
        (ShutdownRun.run plan (settings.shutdown.timeoutSecs.toNat * 1000) cancelAt).steps ↔
      now / 1000 + settings.shutdown.timeoutSecs.toNat < Clock.range) := by
  have hshutdown : Clock.reaches (plan.recordsSentAt + settings.shutdown.timeoutSecs.toNat * 1000) =
      true ↔ now / 1000 + settings.shutdown.timeoutSecs.toNat < Clock.range := by
    rw [hplan, Clock.reaches_seconds]
  obtain ⟨hreport, hroot⟩ :=
    ShutdownRun.report_isSome_iff plan (settings.shutdown.timeoutSecs.toNat * 1000) cancelAt
  have hends : (ShutdownRun.run plan (settings.shutdown.timeoutSecs.toNat * 1000) cancelAt).report.isSome
      ↔ now / 1000 + settings.shutdown.timeoutSecs.toNat < Clock.range := by
    rw [hreport, hshutdown]
    exact and_iff_left hmodules
  refine ⟨?_, ?_, ?_, hends, hroot.trans hends⟩
  · unfold Listener.ofSocket
    split <;> simp [Except.isOk, Except.toBool] <;> omega
  · rw [Mount.make?, isRoutable_pattern _ (isMountPath_of_isValid hvalid)]
    split <;> simp_all
  · have hperiod : settings.streaming.keepAliveSecs.toNat * 1000 ≠ 0 := by
      have := keepAliveSecs_ne_zero_of_isValid hvalid
      have : settings.streaming.keepAliveSecs.toNat ≠ 0 := fun h => this (UInt64.toNat_inj.mp h)
      omega
    rw [Session.Writer.setClocks_waiting_iff, hw]
    show settings.streaming.keepAliveSecs.toNat * 1000 ≠ 0 ∧
      Clock.reaches (now + settings.streaming.keepAliveSecs.toNat * 1000) = true ↔ _
    rw [Clock.reaches_seconds]
    exact and_iff_right hperiod

/-- The default settings can run from the first moment of the clock on. -/
theorem valid_runs_iff_default :
    let settings : Settings := {}
    let w : Session.Writer := { options := .ofSettings settings.streaming }
    settings.isValid = true ∧
      (Listener.ofSocket ⟨.v4 [127, 0, 0, 1], 8080⟩ settings.listener.maxConnections.toNat).isOk ∧
      (Mount.make? settings.gateway.mountPath { maxBodyBytes := 0 }).isSome ∧
      (w.setClocks 0).1.phase = .waiting ∧
      (ShutdownRun.run {} (settings.shutdown.timeoutSecs.toNat * 1000) none).report.isSome := by
  intro settings w
  have hvalid : settings.isValid = true := by decide
  obtain ⟨hpermits, hmount, hsession, hshutdown, -⟩ :=
    valid_runs_iff settings hvalid 0 ⟨.v4 [127, 0, 0, 1], 8080⟩ { maxBodyBytes := 0 } w rfl {} rfl
      (by simp) none
  exact ⟨hvalid, hpermits.mpr (by decide), hmount.mpr (by decide),
    hsession.mpr (by decide), hshutdown.mpr (by decide)⟩

/-- Valid settings beyond every limit. -/
def beyondEveryLimit : Settings where
  listener := { maxConnections := 0x2000000000000000 }
  gateway := { mountPath := "/:a" }
  streaming := { keepAliveSecs := 0x8000000000000000, sessionTimeoutSecs := 0x8000000000000001 }
  shutdown := { timeoutSecs := 0x8000000000000000 }

/-- **Valid settings can break a host down**, in each of the four ways. -/
theorem valid_beyond_every_limit :
    (¬ ∀ (settings : Settings) (address : SocketAddress), settings.isValid = true →
      (Listener.ofSocket address settings.listener.maxConnections.toNat).isOk) ∧
    (¬ ∀ (settings : Settings) (gateway : Gateway), settings.isValid = true →
      (Mount.make? settings.gateway.mountPath gateway).isSome) ∧
    (¬ ∀ (settings : Settings) (w : Session.Writer) (now : Nat) (message : String),
      settings.isValid = true → w.options = .ofSettings settings.streaming →
        (w.setClocks now).1.result? ≠ some (.broken message)) ∧
    ¬ ∀ (settings : Settings) (plan : ShutdownPlan) (cancelAt : Option Nat), settings.isValid = true →
      (∀ module ∈ plan.modules, module.breakdown? = none) →
        (ShutdownRun.run plan (settings.shutdown.timeoutSecs.toNat * 1000) cancelAt).report.isSome := by
  have hvalid : beyondEveryLimit.isValid = true := by decide
  refine ⟨fun h => ?_, fun h => ?_, fun h => ?_, fun h => ?_⟩
  · exact absurd (h _ ⟨.v4 [127, 0, 0, 1], 0⟩ hvalid) (by decide)
  · exact absurd (h _ { maxBodyBytes := 0 } hvalid) (by decide)
  · exact h beyondEveryLimit { options := .ofSettings beyondEveryLimit.streaming } 0
      "overflow when adding duration to instant" hvalid rfl (by decide)
  · exact absurd (h _ {} none hvalid (by simp)) (by decide)

end Settings

end ServiceHost

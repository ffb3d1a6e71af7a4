-- What an environment makes of the settings. A number that is not set, or not
-- written as one, leaves its setting as it is by default. Whatever the variables
-- say, the counts of attempts and calls are positive and the threshold is a
-- percentage. Only the two times of the sweep are taken as they come: one can be
-- too long to be held, and both can be such that no sweep works with them.
import Checkout.Proofs.Number.Width
import Checkout.Settings

namespace Checkout

/-! ## Numbers in the environment -/

/-- A value is the one that is given, or the default if none is. -/
structure Settled {α : Type} (Given : α → Prop) (default value : α) : Prop where
  given : ∀ a, Given a → value = a
  absent : (∀ a, ¬ Given a) → value = default

namespace Settled

variable {α : Type} {Given Given' : α → Prop} {default value : α}

theorem congr (h : Settled Given default value) (hsame : ∀ a, Given' a ↔ Given a) :
    Settled Given' default value where
  given a ha := h.given a ((hsame a).mp ha)
  absent hnone := h.absent fun a ha => hnone a ((hsame a).mpr ha)

/-- What holds of the default holds of the value unless it fails for one that is given. -/
theorem holds_iff (h : Settled Given default value) {P : α → Prop} (hdefault : P default) :
    P value ↔ ∀ a, Given a → P a := by
  refine ⟨fun hvalue a ha => h.given a ha ▸ hvalue, fun hall => ?_⟩
  by_cases hgiven : ∃ a, Given a
  · obtain ⟨a, ha⟩ := hgiven
    exact (h.given a ha).symm ▸ hall a ha
  · exact (h.absent (not_exists.mp hgiven)).symm ▸ hdefault

end Settled

/-- The double is a number from zero to a hundred. -/
def Binary64.IsPercentage (d : Binary64) : Prop :=
  (zero false).le d = true ∧ d.le (.ofNat 100) = true

namespace Environment

/-- A variable is set to a number of a width, blanks around it apart. -/
def Gives (e : Environment) (w : Width) (name : String) (n : Int) : Prop :=
  ∃ value, e.get? name = some value ∧ w.Spells (Text.trimmed value.toList) n

/-- A variable is set to a percentage, blanks around it apart. -/
def GivesPercentage (e : Environment) (name : String) (d : Binary64) : Prop :=
  ∃ value, e.get? name = some value ∧ Binary64.ofText? (Text.trim value) = some d ∧ d.IsPercentage

variable {e : Environment} {w : Width} {name : String} {n : Int}

theorem gives_iff : e.Gives w name n ↔
    (e.get? name).map (fun value => w.read (Text.trimmed value.toList)) = some (.ok n) := by
  simp only [Gives, Option.map_eq_some_iff, Width.read_eq_ok_iff]

instance (e : Environment) (w : Width) (name : String) (n : Int) : Decidable (e.Gives w name n) :=
  decidable_of_iff _ gives_iff.symm

/-- A number without a sign is no negative one. -/
theorem Gives.nonneg {bits : Nat} (h : e.Gives ⟨false, bits⟩ name n) : 0 ≤ n := by
  obtain ⟨value, -, hspells⟩ := h
  exact hspells.holds.1

end Environment

/-! ## How a single setting is read -/

namespace Settings

variable (e : Environment) (name : String)

theorem valueOr_eq {α : Type} (read : String → Except String α) (default : α) :
    valueOr e read name default =
      ((e.get? name).bind fun value => (read (Text.trim value)).toOption).getD default := by
  unfold valueOr readOr
  cases e.get? name with
  | none => rfl
  | some value =>
    simp only [Option.bind_some]
    cases read (Text.trim value) <;> rfl

theorem valueOr_settled {α : Type} (read : String → Except String α) (default : α) :
    Settled (fun a => ∃ value, e.get? name = some value ∧ read (Text.trim value) = .ok a) default
      (valueOr e read name default) := by
  rw [valueOr_eq]
  constructor
  · rintro a ⟨value, hvalue, hread⟩
    rw [hvalue, Option.bind_some, hread]
    rfl
  · intro hnone
    cases hvalue : e.get? name with
    | none => rfl
    | some value =>
      cases hread : read (Text.trim value) with
      | ok a => exact absurd ⟨value, hvalue, hread⟩ (hnone a)
      | error reason => simp [hread, Except.toOption]

theorem readWhole_eq_ok_iff (w : Width) (value : String) (n : Int) :
    readWhole w (Text.trim value) = .ok n ↔ w.Spells (Text.trimmed value.toList) n := by
  rw [← Width.read_eq_ok_iff, readWhole, Text.trim, String.toList_ofList]
  cases w.read (Text.trimmed value.toList) <;> simp [Except.mapError]

theorem readCount_eq_ok_iff (bits : Nat) (value : String) (n : Nat) :
    readCount bits (Text.trim value) = .ok n ↔
      Width.Spells ⟨false, bits⟩ (Text.trimmed value.toList) n := by
  rw [← readWhole_eq_ok_iff, readCount]
  cases hread : readWhole ⟨false, bits⟩ (Text.trim value) with
  | error reason => exact ⟨nofun, nofun⟩
  | ok m =>
    have hm : 0 ≤ m := ((readWhole_eq_ok_iff _ _ _).mp hread).holds.1
    simp only [Except.map, Except.ok.injEq]
    omega

/-- A whole number is what its variable is set to, or its default. -/
theorem wholeOr_settled (w : Width) (default : Int) :
    Settled (e.Gives w name) default (valueOr e (readWhole w) name default) :=
  (valueOr_settled e name (readWhole w) default).congr fun n =>
    exists_congr fun value => and_congr_right fun _ => (readWhole_eq_ok_iff w value n).symm

/-- A count is what its variable is set to, or its default. -/
theorem countOr_settled (bits default : Nat) :
    Settled (e.Gives ⟨false, bits⟩ name) (default : Int) (countOr e bits name default : Int) := by
  have hcount : Settled (fun n : Nat => e.Gives ⟨false, bits⟩ name n) default
      (countOr e bits name default) :=
    (valueOr_settled e name (readCount bits) default).congr fun n =>
      exists_congr fun value => and_congr_right fun _ => (readCount_eq_ok_iff bits value n).symm
  refine ⟨fun n hn => ?_, fun hnone => congrArg Int.ofNat (hcount.absent fun n => hnone n)⟩
  obtain ⟨m, rfl⟩ := Int.eq_ofNat_of_zero_le hn.nonneg
  exact congrArg Int.ofNat (hcount.given m hn)

theorem readDouble_eq_ok_iff (text : String) (d : Binary64) :
    readDouble text = .ok d ↔ Binary64.ofText? text = some d := by
  unfold readDouble
  cases Binary64.ofText? text <;> simp

/-- A percentage is what its variable is set to, or its default. -/
theorem percentageOr_settled (default : Binary64) :
    Settled (e.GivesPercentage name) default (percentageOr e name default) := by
  have hdouble : Settled (fun d => ∃ value, e.get? name = some value ∧
      Binary64.ofText? (Text.trim value) = some d) default (valueOr e readDouble name default) :=
    (valueOr_settled e name readDouble default).congr fun d =>
      exists_congr fun value => and_congr_right fun _ => (readDouble_eq_ok_iff _ d).symm
  unfold percentageOr
  constructor
  · rintro d ⟨value, hvalue, hread, hwithin⟩
    have hgiven := hdouble.given d ⟨value, hvalue, hread⟩
    simp only [hgiven, hwithin.1, hwithin.2, Bool.and_self, if_true]
  · intro hnone
    simp only
    split
    · next hwithin =>
      refine hdouble.absent fun d ⟨value, hvalue, hread⟩ => hnone d ⟨value, hvalue, hread, ?_⟩
      rw [hdouble.given d ⟨value, hvalue, hread⟩] at hwithin
      exact Bool.and_eq_true_iff.mp hwithin
    · rfl

theorem percentageOr_isPercentage {default : Binary64} (h : default.IsPercentage) :
    (percentageOr e name default).IsPercentage :=
  ((percentageOr_settled e name default).holds_iff h).mpr fun _ ⟨_, _, _, hwithin⟩ => hwithin

/-! ## All settings that are numbers -/

/-- A setting that is a whole number: its variable, how that is written, what the setting makes of a
number, and where it stands. -/
structure NumberSetting where
  name : String
  width : Width
  taken : Int → Int
  value : Settings → Int

/-- The setting is what its variable makes of it. Without a number there it is the default. -/
def NumberSetting.Follows (x : NumberSetting) (e : Environment) (s : Settings) : Prop :=
  (∀ n, e.Gives x.width x.name n → x.value s = x.taken n) ∧
    ((∀ n, ¬ e.Gives x.width x.name n) → x.value s = x.value .default)

/-- How long a payment may be open, in minutes. -/
def timeoutVariable : String := "ORDERS_PAYMENT_TIMEOUT_MINS"

/-- How often the sweep runs, in seconds. -/
def sweepVariable : String := "ORDERS_PAYMENT_SWEEP_SECS"

/-- All settings that are whole numbers. Counts of attempts and calls are raised to one. -/
def numbers : List NumberSetting :=
  [⟨"ORDERS_PORT", .unsigned16, id, fun s => s.portNumber⟩,
    ⟨"ORDERS_MAX_DB_CONNECTIONS", .unsigned32, id, fun s => s.maxDatabaseConnections⟩,
    ⟨"ORDERS_GATEWAY_TIMEOUT_MS", .unsigned64, id, fun s => s.gateway.callTimeout.milliseconds⟩,
    ⟨"ORDERS_GATEWAY_RETRY_ATTEMPTS", .unsigned32, (max · 1), fun s => s.gateway.retry.maxAttempts⟩,
    ⟨"ORDERS_GATEWAY_RETRY_WAIT_MS", .unsigned64, id, fun s => s.gateway.retry.wait.milliseconds⟩,
    ⟨"ORDERS_BREAKER_WINDOW", .unsigned64, (max · 1), fun s => s.gateway.breaker.window⟩,
    ⟨"ORDERS_BREAKER_MIN_CALLS", .unsigned64, (max · 1), fun s => s.gateway.breaker.minimumCalls⟩,
    ⟨"ORDERS_BREAKER_OPEN_SECS", .unsigned64, id, fun s => s.gateway.breaker.openWait.seconds⟩,
    ⟨"ORDERS_BREAKER_HALF_OPEN_CALLS", .unsigned64, (max · 1),
      fun s => s.gateway.breaker.halfOpenCalls⟩,
    ⟨timeoutVariable, .signed64, id, fun s => s.paymentTimeoutMinutes⟩,
    ⟨sweepVariable, .unsigned64, id, fun s => s.paymentSweepInterval.seconds⟩,
    ⟨"ORDERS_EVENT_BUFFER", .unsigned64, id, fun s => s.eventBuffer⟩]

theorem NumberSetting.follows_of {x : NumberSetting} {e : Environment} {s : Settings} {default value : Int}
    (h : Settled (e.Gives x.width x.name) default value) (hvalue : x.value s = x.taken value)
    (hdefault : x.value .default = x.taken default) : x.Follows e s := by
  refine ⟨fun n hn => ?_, fun hnone => ?_⟩
  · rw [hvalue, h.given n hn]
  · rw [hvalue, h.absent hnone, hdefault]

/-! ## Settings to run with -/

/-- The counts of attempts and calls are positive, and the threshold is a percentage. -/
structure Guarded (s : Settings) : Prop where
  attempts : 1 ≤ s.gateway.retry.maxAttempts
  window : 1 ≤ s.gateway.breaker.window
  minimumCalls : 1 ≤ s.gateway.breaker.minimumCalls
  halfOpenCalls : 1 ≤ s.gateway.breaker.halfOpenCalls
  threshold : s.gateway.breaker.threshold.IsPercentage

/-- The settings are guarded, the sweep waits between two runs, and payments may be open for some
time. -/
structure Usable (s : Settings) : Prop extends Guarded s where
  interval : Duration.zero < s.paymentSweepInterval
  timeout : 0 ≤ s.paymentTimeoutMinutes

instance (d : Binary64) : Decidable d.IsPercentage := inferInstanceAs (Decidable (_ ∧ _))

theorem guarded_gatewayOf (e : Environment) {s : Settings} (h : s.gateway = gatewayOf e) :
    s.Guarded := by
  constructor <;> rw [h]
  · exact Nat.le_max_right _ _
  · exact Nat.le_max_right _ _
  · exact Nat.le_max_right _ _
  · exact Nat.le_max_right _ _
  · exact percentageOr_isPercentage e _ (by decide)

variable (e : Environment)

/-- A count that is taken as it comes. -/
theorem follows_count {name : String} {bits default : Nat} {value : Settings → Int} {s : Settings}
    (hvalue : value s = countOr e bits name default)
    (hdefault : value .default = default) :
    NumberSetting.Follows ⟨name, ⟨false, bits⟩, id, value⟩ e s :=
  NumberSetting.follows_of (countOr_settled e name bits default) hvalue hdefault

/-- A count that is raised to one. -/
theorem follows_positive {name : String} {bits default : Nat} {value : Settings → Int}
    {s : Settings} (hvalue : value s = (max (countOr e bits name default) 1 : Nat))
    (hdefault : value .default = (max default 1 : Nat)) :
    NumberSetting.Follows ⟨name, ⟨false, bits⟩, (max · 1), value⟩ e s :=
  NumberSetting.follows_of (countOr_settled e name bits default)
    (hvalue.trans (Nat.cast_max ..)) (hdefault.trans (Nat.cast_max ..))

theorem milliseconds_ofMilliseconds (n : Nat) : (Duration.ofMilliseconds n).milliseconds = n :=
  Nat.mul_div_cancel_left n (by decide)

theorem seconds_ofSeconds (n : Nat) : (Duration.ofSeconds n).seconds = n :=
  Nat.mul_div_cancel_left n (by decide)

/-- The timeout in minutes. -/
theorem timeout_settled : Settled (e.Gives .signed64 timeoutVariable) 10
    (valueOr e (readWhole .signed64) timeoutVariable 10) :=
  wholeOr_settled e timeoutVariable .signed64 10

/-- Settings can be made unless the timeout is too long to be held. They have the numbers that the
environment gives. -/
theorem ofEnvironment_cases :
    (ofEnvironment e = .error .minutes ∧
      ∃ n, e.Gives .signed64 timeoutVariable n ∧ mostMinutes < n.natAbs) ∨
    ∃ s, ofEnvironment e = .ok s ∧
      (∀ n, e.Gives .signed64 timeoutVariable n → n.natAbs ≤ mostMinutes) ∧
      (∀ x ∈ numbers, x.Follows e s) ∧ s.gateway = gatewayOf e ∧
      s.paymentSweepInterval = .ofSeconds (countOr e 64 sweepVariable 300) ∧
      s.paymentTimeoutMinutes = valueOr e (readWhole .signed64) timeoutVariable 10 := by
  have hheld : (valueOr e (readWhole .signed64) "ORDERS_PAYMENT_TIMEOUT_MINS" 10).natAbs ≤
      mostMinutes ↔ ∀ n, e.Gives .signed64 timeoutVariable n → n.natAbs ≤ mostMinutes :=
    (timeout_settled e).holds_iff (P := fun n : Int => n.natAbs ≤ mostMinutes) (by decide)
  unfold ofEnvironment checkMinutes
  split
  · next hwithin =>
    refine .inr ⟨_, rfl, hheld.mp (by omega), ?_, rfl, rfl, rfl⟩
    simp only [numbers, List.forall_mem_cons]
    refine ⟨follows_count e rfl rfl, follows_count e rfl rfl,
      follows_count e (congrArg Nat.cast (milliseconds_ofMilliseconds _)) rfl,
      follows_positive e rfl rfl,
      follows_count e (congrArg Nat.cast (milliseconds_ofMilliseconds _)) rfl,
      follows_positive e rfl rfl, follows_positive e rfl rfl,
      follows_count e (congrArg Nat.cast (seconds_ofSeconds _)) rfl,
      follows_positive e rfl rfl, NumberSetting.follows_of (timeout_settled e) rfl rfl,
      follows_count e (congrArg Nat.cast (seconds_ofSeconds _)) rfl,
      follows_count e rfl rfl, List.forall_mem_nil _⟩
  · next hlong =>
    refine .inl ⟨rfl, ?_⟩
    by_contra hnone
    have hall := hheld.mpr fun n hn => Int.not_lt.mp fun hlt => hnone ⟨n, hn, hlt⟩
    omega

/-- The sweep pauses between two runs unless it is set not to. -/
theorem sweep_pauses_iff : Duration.zero < .ofSeconds (countOr e 64 sweepVariable 300) ↔
    ¬ e.Gives .unsigned64 sweepVariable 0 := by
  have hcount := (countOr_settled e sweepVariable 64 300).holds_iff (P := (· ≠ 0)) (by decide)
  have hpause : Duration.zero < .ofSeconds (countOr e 64 sweepVariable 300) ↔
      (countOr e 64 sweepVariable 300 : Int) ≠ 0 := by
    change 0 < 1000000000 * countOr e 64 sweepVariable 300 ↔ _
    omega
  rw [hpause, hcount]
  exact ⟨fun hall hzero => hall 0 hzero rfl, fun hnone n hn hzero => hnone (hzero ▸ hn)⟩

/-- The timeout is not negative unless it is set to be. -/
theorem timeout_nonneg_iff : 0 ≤ valueOr e (readWhole .signed64) timeoutVariable 10 ↔
    ∀ n, e.Gives .signed64 timeoutVariable n → 0 ≤ n :=
  (timeout_settled e).holds_iff (by decide)

theorem usable_iff {s : Settings} (hguarded : s.Guarded)
    (hinterval : s.paymentSweepInterval = .ofSeconds (countOr e 64 sweepVariable 300))
    (htimeout : s.paymentTimeoutMinutes = valueOr e (readWhole .signed64) timeoutVariable 10) :
    s.Usable ↔ ¬ e.Gives .unsigned64 sweepVariable 0 ∧
      ∀ n, e.Gives .signed64 timeoutVariable n → 0 ≤ n := by
  rw [← sweep_pauses_iff, ← timeout_nonneg_iff, ← hinterval, ← htimeout]
  exact ⟨fun h => ⟨h.interval, h.timeout⟩, fun h => ⟨hguarded, h.1, h.2⟩⟩

/-! ## The law -/

/-- Whatever the variables say, settings can be made of them, unless the timeout is a number of
minutes too long to be held. They are the defaults but for the numbers that are given, and guarded.
They are usable exactly if the sweep is not set to come without a pause, and the timeout not to a
negative number. -/
theorem only_the_times_of_the_sweep_can_spoil_the_settings (e : Environment) :
    (ofEnvironment e = .error .minutes ∧
      ∃ n, e.Gives .signed64 timeoutVariable n ∧ mostMinutes < n.natAbs) ∨
    ∃ s, ofEnvironment e = .ok s ∧
      (∀ n, e.Gives .signed64 timeoutVariable n → n.natAbs ≤ mostMinutes) ∧
      (∀ x ∈ numbers, x.Follows e s) ∧
      Settled (e.GivesPercentage "ORDERS_BREAKER_FAILURE_RATE")
        Settings.default.gateway.breaker.threshold s.gateway.breaker.threshold ∧
      s.Guarded ∧
      (s.Usable ↔ ¬ e.Gives .unsigned64 sweepVariable 0 ∧
        ∀ n, e.Gives .signed64 timeoutVariable n → 0 ≤ n) := by
  rcases ofEnvironment_cases e with hlong | ⟨s, hs, hheld, hfollows, hgateway, hinterval, htimeout⟩
  · exact .inl hlong
  · have hguarded := guarded_gatewayOf e hgateway
    refine .inr ⟨s, hs, hheld, hfollows, ?_, hguarded, usable_iff e hguarded hinterval htimeout⟩
    rw [hgateway]
    exact percentageOr_settled e _ _

/-- A window of no calls is raised to one. A port beyond sixteen bits, a threshold that is no number
and a timeout in words are left at their defaults. -/
theorem settings_of_mixed_variables :
    let e : Environment := .ofTexts [("ORDERS_PORT", "70000"), ("ORDERS_BREAKER_WINDOW", "0"),
      ("ORDERS_BREAKER_FAILURE_RATE", "NaN"), (sweepVariable, " +60 "), (timeoutVariable, "ten")]
    ∃ s, ofEnvironment e = .ok s ∧ s.Usable ∧ (s.gateway.breaker.window : Int) = 1 ∧
      (s.portNumber : Int) = 8370 := by
  intro e
  have hport : (e.get? "ORDERS_PORT").map (fun value =>
      Width.unsigned16.read (Text.trimmed value.toList)) = some (.error .tooLarge) := by
    decide +kernel
  have htimeout : (e.get? timeoutVariable).map (fun value =>
      Width.signed64.read (Text.trimmed value.toList)) = some (.error .invalidDigit) := by
    decide +kernel
  have hwindow : e.Gives .unsigned64 "ORDERS_BREAKER_WINDOW" 0 := by decide +kernel
  have hsweep : ¬ e.Gives .unsigned64 sweepVariable 0 := by decide +kernel
  rcases only_the_times_of_the_sweep_can_spoil_the_settings e with
    ⟨-, n, hn, -⟩ | ⟨s, hs, -, hfollows, -, -, husable⟩
  · rw [Environment.gives_iff, htimeout] at hn
    cases hn
  · refine ⟨s, hs, husable.mpr ⟨hsweep, fun n hn => ?_⟩,
      (hfollows numbers[5] (List.getElem_mem _)).1 0 hwindow,
      (hfollows numbers[0] (List.getElem_mem _)).2 fun n hn => ?_⟩
    · rw [Environment.gives_iff, htimeout] at hn
      cases hn
    · have hread := Environment.gives_iff.mp hn
      cases hport.symm.trans hread

/-- A timeout that is one minute too long to be held, a sweep without a pause, and a timeout below
zero. -/
theorem times_are_taken_as_they_come :
    ofEnvironment (.ofTexts [(timeoutVariable, "153722867280913")]) = .error .minutes ∧
      (∃ s, ofEnvironment (.ofTexts [(sweepVariable, "0")]) = .ok s ∧ ¬ s.Usable) ∧
      ∃ s, ofEnvironment (.ofTexts [(timeoutVariable, "-1")]) = .ok s ∧ ¬ s.Usable := by
  refine ⟨by decide +kernel, ?_, ?_⟩
  · have hmade : ∃ s, ofEnvironment (.ofTexts [(sweepVariable, "0")]) = .ok s ∧
        s.paymentSweepInterval = .zero := ⟨_, rfl, by decide +kernel⟩
    obtain ⟨s, hs, hinterval⟩ := hmade
    refine ⟨s, hs, fun husable => ?_⟩
    have hpause := husable.interval
    rw [hinterval] at hpause
    exact absurd hpause (by decide)
  · have hmade : ∃ s, ofEnvironment (.ofTexts [(timeoutVariable, "-1")]) = .ok s ∧
        s.paymentTimeoutMinutes = -1 := ⟨_, rfl, by decide +kernel⟩
    obtain ⟨s, hs, htimeout⟩ := hmade
    refine ⟨s, hs, fun husable => ?_⟩
    have hnonneg := husable.timeout
    rw [htimeout] at hnonneg
    exact absurd hnonneg (by decide)

end Settings

end Checkout

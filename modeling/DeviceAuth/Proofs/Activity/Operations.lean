import DeviceAuth.Proofs.Activity.Calls

/-! The operations of a device as runs. Every operation on the token is made up of moves:
if nobody comes in between, its pieces one after the other do to the device what the
operation does. So whatever holds after every run holds of a device whose operations
are carried out as a whole. -/

namespace DeviceAuth

namespace Activity

variable {σ : Type} {activity : Activity σ}

theorem step_arrange_of_none [Backend σ] {call : Nat} (none : activity.calls call = none) :
    activity.step (.arrange call) = activity := by
  simp only [step, none]

theorem step_arrange [Backend σ] {call : Nat}
    (scheduling : activity.calls call = some .scheduling) :
    (activity.step (.arrange call)).device = activity.device.schedule.2 := by
  simp only [step, scheduling]
  rfl

theorem thenSchedule_of_ne (answer : Except Failure Bool × Device σ)
    (nothing : answer.1 ≠ .ok true) : (Device.thenSchedule answer).2 = answer.2 := by
  rcases answer with ⟨_ | _ | _, device⟩
  · rfl
  · rfl
  · exact absurd rfl nothing

theorem thenSchedule_true (device : Device σ) :
    (Device.thenSchedule (.ok true, device)).2 = device.schedule.2 := by
  unfold Device.thenSchedule
  dsimp only
  split
  next equal => rw [equal]
  next equal => rw [equal]

variable [Backend σ]

theorem device_goOn_arrange (numbered : activity.Numbered)
    (answer : Except Failure Bool × Device σ) :
    ((activity.goOn answer).step (.arrange activity.nextCall)).device =
      (Device.thenSchedule answer).2 := by
  by_cases wanted : answer.1 = .ok true
  case pos =>
    rcases answer with ⟨result, device⟩
    cases wanted
    rw [thenSchedule_true]
    exact step_arrange (calls_beginCall_next .scheduling)
  case neg =>
    have none : ({ activity with device := answer.2 } : Activity σ).calls
        activity.nextCall = none := numbered activity.nextCall (Nat.le_refl _)
    rw [thenSchedule_of_ne answer wanted, goOn_of_ne answer activity wanted,
      step_arrange_of_none none]

/-! ## Holding the token -/

theorem device_loadToken (numbered : activity.Numbered) :
    (activity.run [.load, .arrange activity.nextCall]).device = activity.device.loadToken.2 :=
  device_goOn_arrange numbered activity.device.takeStored

theorem device_takeAnswer (numbered : activity.Numbered) (message : String) :
    (activity.run [.answer message, .arrange activity.nextCall]).device =
      (activity.device.takeAnswer message).2 :=
  device_goOn_arrange numbered (activity.device.applyAnswer message)

theorem device_storeToken (numbered : activity.Numbered) (token : String)
    (lifetime : UInt32) :
    (activity.run [.hold token lifetime, .arrange activity.nextCall]).device =
      (activity.device.storeToken token lifetime).2 := by
  have held := device_goOn_arrange numbered
    (((activity.device.holdToken token lifetime).1.map fun _ => true),
      (activity.device.holdToken token lifetime).2)
  refine held.trans ?_
  unfold Device.storeToken
  rcases activity.device.holdToken token lifetime with ⟨_ | _, device⟩
  · rfl
  · refine (thenSchedule_true device).trans ?_
    rcases scheduled : device.schedule with ⟨_ | _, after⟩
    all_goals simp only [scheduled]

theorem device_setAutoRefresh (enabled : Bool) :
    (activity.run [.allow enabled, .arrange activity.nextCall]).device =
      (activity.device.setAutoRefresh enabled).2 :=
  step_arrange (calls_beginCall_next .scheduling)

/-! ## Refreshing -/

def enterMoves (call : Nat) : List (Move σ) := [.enter call, .release call, .report call]

theorem run_enterMoves_of_none {call : Nat} (none : activity.calls call = none) :
    activity.run (enterMoves call) = activity := by
  simp only [enterMoves, run, step, none]

theorem run_enterMoves {call : Nat} (entering : activity.calls call = some .entering) :
    activity.run (enterMoves call) =
      ((activity.enter call).step (.release call)).step (.report call) := by
  simp only [enterMoves, run]
  congr
  simp only [step, entering]

theorem device_run_enterMoves {call : Nat} (entering : activity.calls call = some .entering) :
    (activity.run (enterMoves call)).device =
      match activity.device.enterRefresh with
      | (.error _, device) => device.onKeeper Keeper.releaseFlag
      | (.ok (generation, _), device) =>
          if device.keeper.connected then device
          else (device.closeRefresh generation (.error .unavailable)).2 := by
  rw [run_enterMoves entering]
  unfold enter
  rcases activity.device.enterRefresh with ⟨_ | ⟨generation, proof⟩, device⟩
  · dsimp only
    rw [step_release (calls_setCall_same _), step_report_of_ne]
    · rfl
    · intro _ _
      rw [calls_setCall_same]
      simp
  · dsimp only
    by_cases connected : device.keeper.connected
    · rw [if_pos connected, if_pos connected, step_release_of_ne, step_report_of_ne]
      · rfl
      · intro _ _
        rw [calls_setCall_same]
        simp
      · rw [calls_setCall_same]
        nofun
    · rw [if_neg connected, if_neg connected, step_release_of_ne,
        step_report (calls_setCall_same _), Device.device_closeRefresh_error]
      · rfl
      · rw [calls_setCall_same]
        nofun

theorem device_takeFlag_enterMoves (numbered : activity.Numbered) :
    (activity.takeFlag.run (enterMoves activity.nextCall)).device =
      activity.device.openRefresh.2 := by
  rcases activity.takeFlag_cases with ⟨flag, same⟩ | ⟨taken, free, began⟩
  · have untaken : activity.device.keeper.takeFlag? = none := if_pos flag
    rw [same, run_enterMoves_of_none (numbered activity.nextCall (Nat.le_refl _))]
    simp only [Device.openRefresh, Device.keep, Keeper.beginRefresh, untaken]
  · have device : activity.device.keeper.takeFlag? = some taken := free
    have entering : ((activity.onKeeper fun _ => taken).beginCall .entering).calls
        activity.nextCall = some .entering := calls_beginCall_next .entering
    rw [began, device_run_enterMoves entering]
    simp only [Device.openRefresh, Device.keep, Keeper.beginRefresh, device]
    show (match ({ activity.device with keeper := taken } : Device σ).enterRefresh with
      | (.error _, device) => device.onKeeper Keeper.releaseFlag
      | (.ok (generation, _), device) =>
          if device.keeper.connected then device
          else (device.closeRefresh generation (.error .unavailable)).2) = _
    unfold Device.enterRefresh Device.keep
    rcases taken.enterRefresh activity.device.settings with ⟨_ | ⟨generation, proof⟩, keeper⟩
    · rfl
    · dsimp only
      by_cases connected : keeper.connected
      · rw [if_pos connected, if_pos connected]
      · rw [if_neg connected, if_neg connected]

theorem device_openRefresh (numbered : activity.Numbered) :
    (activity.run (.refresh :: enterMoves activity.nextCall)).device =
      activity.device.openRefresh.2 :=
  device_takeFlag_enterMoves numbered

theorem device_openLaunched (numbered : activity.Numbered) {task : Nat}
    (launched : activity.keeper.duty? task = some .refresh) :
    (activity.run (.begin task :: enterMoves activity.nextCall)).device =
      (activity.device.openLaunched task).2 := by
  have ended : (activity.onKeeper (Keeper.endTask task)).Numbered := numbered
  simp only [run, step, launched, if_true]
  exact device_takeFlag_enterMoves ended

theorem device_closeRefresh {call : Nat} {generation : UInt64}
    (sending : activity.calls call = some (.sending generation))
    (result : Except LinkFailure Unit) :
    (activity.run [.sent call result, .report call]).device =
      (activity.device.closeRefresh generation result).2 := by
  simp only [run]
  cases result with
  | ok =>
      have ended : activity.step (.sent call (.ok ())) = activity.setCall call none := by
        simp only [step, sending]
      rw [ended, step_report_of_ne]
      · rfl
      · intro _ _
        rw [calls_setCall_same]
        simp
  | error failure =>
      have failed : activity.step (.sent call (.error failure)) = activity.setCall call
          (some (.failing generation (Failure.link failure).message)) := by
        simp only [step, sending]
      rw [failed, step_report (calls_setCall_same _), Device.device_closeRefresh_error]
      rfl

theorem device_abandonRefresh {call : Nat} {generation : UInt64}
    (sending : activity.calls call = some (.sending generation)) :
    (activity.run [.drop call true]).device = activity.device.abandonRefresh generation := by
  simp only [run, step, sending, if_true]
  rfl

end Activity

end DeviceAuth

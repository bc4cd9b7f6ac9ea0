/-
# Pumping frames

Frames are pumped one at a time until something ends them. Behind a frame an error comes first, then
a breakpoint that is to stop, then a request for the end, and last the number of frames that were
asked for, which may end the pumping before any frame. The first number of frames behind which one
of these holds tells the outcome. As long as there is none, the pump goes on from frame to frame.

The pump ends if its rounds come to an outcome, which is then its value. A round looks at the
request and at the number before its frame, so these are noticed one round late.
-/

import Mathlib.Data.Nat.Find
import Chip8.Proofs.Frame.Counting
import Chip8.Proofs.Frame.Ranges

namespace Chip8

namespace FrameLoop

variable {ρ : Type}

/-- How many of the frames that have been pumped have been counted: one that is broken off is
not. -/
def Outcome.counted : Outcome → Nat → Nat
  | .stopped (.broken _), pumped => pumped - 1
  | _, pumped => pumped

theorem Outcome.counted_zero (o : Outcome) : o.counted 0 = 0 := by
  cases o with
  | stopped reason => cases reason <;> rfl
  | quit | unfinished => rfl

theorem Outcome.counted_of_ne {o : Outcome} (hends : ∀ reason, o ≠ .stopped (.broken reason))
    (pumped : Nat) : o.counted pumped = pumped := by
  unfold counted
  split
  · exact absurd rfl (hends _)
  · rfl

/-- What ends the pumping behind a frame: the first of these that holds. A frame that is broken off
ends it as an error does. -/
def endingOf (reported : Option StopReason) (stops quits spent : Bool) : Option Outcome :=
  match reported with
  | some (.broken reason) => some (.stopped (.broken reason))
  | some .error => some (.stopped .error)
  | reported =>
    if reported == some .breakpoint && stops then some (.stopped .breakpoint)
    else if quits then some .quit
    else if spent then some (.stopped .timeout)
    else none

variable [RandomSource ρ]

/-- What ends the pumping behind so many frames. -/
def ending? (l : FrameLoop ρ) (s : Script) (maxFrames : Option Int) : Nat → Option Outcome
  | 0 => if spent maxFrames l.frames then some (.stopped .timeout) else none
  | k + 1 => endingOf (l.afterFrames k).frame.1 l.stopOnBreak (s.quitsAt (l.frames + k))
      (spent maxFrames (l.frames + k + 1))

/-- These are the first frames behind which something ends the pumping. -/
structure StopsBehind (l : FrameLoop ρ) (s : Script) (maxFrames : Option Int) (count : Nat)
    (o : Outcome) : Prop where
  ending : l.ending? s maxFrames count = some o
  first : ∀ k < count, l.ending? s maxFrames k = none

/-- The rounds of the pump come to this outcome. -/
inductive PumpEnds (maxFrames : Option Int) : FrameLoop ρ → Outcome × FrameLoop ρ → Prop
  | now {l : FrameLoop ρ} {result : Outcome × FrameLoop ρ}
      (hround : l.round maxFrames = .inr result) : PumpEnds maxFrames l result
  | later {l after : FrameLoop ρ} {result : Outcome × FrameLoop ρ}
      (hround : l.round maxFrames = .inl after) (hends : PumpEnds maxFrames after result) :
      PumpEnds maxFrames l result

/-- What the rounds come to is the value of the pump. -/
theorem PumpEnds.pump_eq {maxFrames : Option Int} {l : FrameLoop ρ}
    {result : Outcome × FrameLoop ρ} (h : PumpEnds maxFrames l result) :
    l.pump maxFrames = result := by
  induction h with
  | now hround => rw [FrameLoop.pump_eq, hround]
  | later hround _ ih =>
    rw [FrameLoop.pump_eq, hround]
    exact ih

omit [RandomSource ρ] in
/-- A report that ends the pumping ends it at once. -/
theorem endingOf_of_endsPump {l : FrameLoop ρ} {reason : StopReason}
    (hreports : l.endsPump (some reason) = true) (quits spent : Bool) :
    endingOf (some reason) l.stopOnBreak quits spent = some (.stopped reason) := by
  cases reason with
  | timeout | waitKey => cases hreports
  | error | broken _ => rfl
  | breakpoint =>
    have hstops : l.stopOnBreak = true := hreports
    rw [hstops]
    rfl

omit [RandomSource ρ] in
/-- Behind any other report the request comes first, and then the number of frames. -/
theorem endingOf_of_not_endsPump {l : FrameLoop ρ} {reported : Option StopReason}
    (hreports : l.endsPump reported = false) (quits spent : Bool) :
    endingOf reported l.stopOnBreak quits spent =
      if quits then some .quit else if spent then some (.stopped .timeout) else none := by
  cases reported with
  | none => rfl
  | some reason =>
    cases reason with
    | timeout | waitKey => rfl
    | error | broken _ => cases hreports
    | breakpoint =>
      have hstops : l.stopOnBreak = false := hreports
      rw [hstops]
      rfl

omit [RandomSource ρ] in
theorem endingOf_eq_broken_iff {reported : Option StopReason} {stops quits spent : Bool}
    {reason : DrawError} :
    endingOf reported stops quits spent = some (.stopped (.broken reason)) ↔
      reported = some (.broken reason) := by
  refine ⟨fun h => ?_, fun h => h ▸ rfl⟩
  unfold endingOf at h
  split at h
  · cases h
    rfl
  · cases h
  · split at h
    · cases h
    · split at h
      · cases h
      · split at h <;> cases h

omit [RandomSource ρ] in
/-- If nothing ends the pumping behind a frame, it is not broken off, and neither is the end asked
for nor have the frames passed. -/
theorem of_endingOf_eq_none {reported : Option StopReason} {stops quits spent : Bool}
    (h : endingOf reported stops quits spent = none) :
    (∀ reason, reported ≠ some (.broken reason)) ∧ quits = false ∧ spent = false := by
  unfold endingOf at h
  split at h
  · cases h
  · cases h
  · rename_i hbroken _
    refine ⟨hbroken, ?_⟩
    split at h
    · cases h
    · cases quits with
      | true => cases h
      | false =>
        cases spent with
        | true => cases h
        | false => exact ⟨rfl, rfl⟩

theorem of_ending?_eq_none {l : FrameLoop ρ} {s : Script} {maxFrames : Option Int} {k : Nat}
    (hnone : l.ending? s maxFrames k = none) : spent maxFrames (l.frames + k) = false := by
  cases k with
  | zero =>
    by_contra hspent
    have hpassed : spent maxFrames l.frames = true := Bool.of_not_eq_false hspent
    rw [ending?, if_pos hpassed] at hnone
    cases hnone
  | succ k => exact (of_endingOf_eq_none hnone).2.2

/-- If something ends the pumping, something does so first. -/
theorem exists_stopsBehind_of_ending? {l : FrameLoop ρ} {s : Script} {maxFrames : Option Int}
    (hends : ∃ k, l.ending? s maxFrames k ≠ none) : ∃ k o, StopsBehind l s maxFrames k o := by
  obtain ⟨o, ho⟩ := Option.ne_none_iff_exists'.1 (Nat.find_spec hends)
  exact ⟨Nat.find hends, o, ho, fun k hk => not_not.1 (Nat.find_min hends hk)⟩

omit [RandomSource ρ] in
/-- The frame loop as pumping leaves it: a request for the end is reported. -/
def leave (l : FrameLoop ρ) (o : Outcome) : FrameLoop ρ :=
  if o = .quit then l.onEmulator fun e => e.report (.quit l.frames) else l

omit [RandomSource ρ] in
theorem uncounted_leave (l : FrameLoop ρ) (o : Outcome) : Uncounted l (l.leave o) := by
  unfold leave
  split <;> exact ⟨rfl, rfl, rfl, rfl⟩

theorem pumpEnds_of_quitRequested {l : FrameLoop ρ} (hquit : l.quitRequested = true)
    (maxFrames : Option Int) : PumpEnds maxFrames l (.quit, l.leave .quit) := by
  refine .now ?_
  rw [round, if_pos hquit]
  rfl

theorem pumpEnds_of_spent {l : FrameLoop ρ} {maxFrames : Option Int}
    (hquit : l.quitRequested = false) (hspent : spent maxFrames l.frames = true) :
    PumpEnds maxFrames l (.stopped .timeout, l) := by
  refine .now ?_
  rw [round, hquit, if_neg Bool.false_ne_true, if_pos hspent]

/-- A round that comes to its frame. -/
theorem round_cases {l : FrameLoop ρ} {maxFrames : Option Int} (hquit : l.quitRequested = false)
    (hspent : spent maxFrames l.frames = false) :
    (∃ reason, l.frame.1 = some reason ∧ l.frame.2.endsPump (some reason) = true ∧
        l.round maxFrames = .inr (.stopped reason, l.frame.2)) ∨
      (l.frame.2.endsPump l.frame.1 = false ∧ l.round maxFrames = .inl l.frame.2) := by
  rw [round, hquit, if_neg Bool.false_ne_true, hspent, if_neg Bool.false_ne_true]
  generalize l.frame = result
  obtain ⟨reported, after⟩ := result
  cases reported with
  | none => exact .inr ⟨rfl, rfl⟩
  | some reason =>
    dsimp only
    cases hreports : after.endsPump (some reason) with
    | true => exact .inl ⟨reason, rfl, hreports, if_pos rfl⟩
    | false => exact .inr ⟨rfl, if_neg Bool.false_ne_true⟩

/-- What ends the pumping behind a frame: the report of the frame, or what the frame behind it
notices. -/
theorem pumpEnds_of_frame {l : FrameLoop ρ} {s : Script} {maxFrames : Option Int} {o : Outcome}
    (h : AtFrame l s) (hspent : spent maxFrames l.frames = false)
    (hending : endingOf l.frame.1 l.stopOnBreak (s.quitsAt l.frames)
      (spent maxFrames (l.frames + 1)) = some o) :
    PumpEnds maxFrames l (o, l.frame.2.leave o) := by
  have hstop : l.frame.2.stopOnBreak = l.stopOnBreak := l.stopOnBreak_afterFrames 1
  rw [← hstop] at hending
  rcases round_cases h.quitRequested hspent with
    ⟨reason, hreported, hreports, hround⟩ | ⟨hreports, hround⟩
  · rw [hreported, endingOf_of_endsPump hreports] at hending
    obtain rfl := Option.some.inj hending
    exact .now hround
  · rw [endingOf_of_not_endsPump hreports] at hending
    rcases h.frame with ⟨reason, hbroken, -, -⟩ | ⟨-, -, hframes, hquit⟩
    · rw [hbroken] at hreports
      cases hreports
    · refine .later hround ?_
      cases hasked : s.quitsAt l.frames with
      | true =>
        rw [hasked] at hending
        obtain rfl := Option.some.inj hending
        exact pumpEnds_of_quitRequested (hquit.trans hasked) maxFrames
      | false =>
        cases hpassed : spent maxFrames (l.frames + 1) with
        | true =>
          rw [hasked, hpassed] at hending
          obtain rfl := Option.some.inj hending
          exact pumpEnds_of_spent (hquit.trans hasked) (by rw [hframes, hpassed])
        | false =>
          rw [hasked, hpassed] at hending
          cases hending

/-- If nothing ends the pumping behind a frame, the pump goes on. -/
theorem round_of_frame {l : FrameLoop ρ} {s : Script} {maxFrames : Option Int} (h : AtFrame l s)
    (hspent : spent maxFrames l.frames = false) {quits passed : Bool}
    (hopen : endingOf l.frame.1 l.stopOnBreak quits passed = none) :
    l.round maxFrames = .inl l.frame.2 := by
  have hstop : l.frame.2.stopOnBreak = l.stopOnBreak := l.stopOnBreak_afterFrames 1
  rw [← hstop] at hopen
  rcases round_cases h.quitRequested hspent with ⟨reason, hreported, hreports, -⟩ | ⟨-, hround⟩
  · rw [hreported, endingOf_of_endsPump hreports] at hopen
    cases hopen
  · exact hround

section Frames

variable {l : FrameLoop ρ} {s : Script} (h : AtFrame l s) (maxFrames : Option Int)
include h

/-- Behind frames that nothing has ended, the loop and its script stand at the next one. -/
theorem atFrame_afterFrames {k : Nat} (hnone : ∀ i ≤ k, l.ending? s maxFrames i = none) :
    AtFrame (l.afterFrames k) (l.shown s k) := by
  induction k with
  | zero => exact ⟨h.frontend, h.frames, h.quitRequested⟩
  | succ k ih =>
    have hbefore := ih fun i hi => hnone i (Nat.le_succ_of_le hi)
    have hopen := hnone (k + 1) le_rfl
    rw [ending?, h.frames] at hopen
    obtain ⟨hends, hstays, -⟩ := of_endingOf_eq_none hopen
    exact hbefore.succ hends hstays

theorem frames_afterFrames {k : Nat} (hnone : ∀ i ≤ k, l.ending? s maxFrames i = none) :
    (l.afterFrames k).frames = l.frames + k := by
  rw [(atFrame_afterFrames h maxFrames hnone).frames, h.frames]
  rfl

theorem not_spent_afterFrames {k : Nat} (hnone : ∀ i ≤ k, l.ending? s maxFrames i = none) :
    spent maxFrames (l.afterFrames k).frames = false := by
  rw [frames_afterFrames h maxFrames hnone]
  exact of_ending?_eq_none (hnone k le_rfl)

/-- Behind frames that nothing has ended, and if nothing ends the next one, the pump goes on. -/
theorem round_afterFrames {k : Nat} (hnone : ∀ i ≤ k + 1, l.ending? s maxFrames i = none) :
    (l.afterFrames k).round maxFrames = .inl (l.afterFrames (k + 1)) := by
  have hbefore := fun i (hi : i ≤ k) => hnone i (Nat.le_succ_of_le hi)
  have hopen := hnone (k + 1) le_rfl
  rw [ending?, ← stopOnBreak_afterFrames l k] at hopen
  exact round_of_frame (atFrame_afterFrames h maxFrames hbefore)
    (not_spent_afterFrames h maxFrames hbefore) hopen

/-- Frames that nothing has ended are passed over. -/
theorem pumpEnds_of_afterFrames {k : Nat} (hnone : ∀ i ≤ k, l.ending? s maxFrames i = none)
    {result : Outcome × FrameLoop ρ} (hends : PumpEnds maxFrames (l.afterFrames k) result) :
    PumpEnds maxFrames l result := by
  induction k with
  | zero => exact hends
  | succ k ih =>
    have hbefore := fun i (hi : i ≤ k) => hnone i (Nat.le_succ_of_le hi)
    exact ih hbefore (.later (round_afterFrames h maxFrames hnone) hends)

/-- The pump comes to what first ends the frames. -/
theorem pumpEnds_of_stopsBehind {k : Nat} {o : Outcome} (hstops : StopsBehind l s maxFrames k o) :
    PumpEnds maxFrames l (o, (l.afterFrames k).leave o) := by
  have hending := hstops.ending
  cases k with
  | zero =>
    cases hspent : spent maxFrames l.frames with
    | true =>
      rw [ending?, if_pos hspent] at hending
      obtain rfl := Option.some.inj hending
      exact pumpEnds_of_spent h.quitRequested hspent
    | false =>
      rw [ending?, hspent] at hending
      cases hending
  | succ k =>
    have hnone : ∀ i ≤ k, l.ending? s maxFrames i = none :=
      fun i hi => hstops.first i (Nat.lt_succ_of_le hi)
    rw [ending?, ← frames_afterFrames h maxFrames hnone, ← stopOnBreak_afterFrames l k] at hending
    exact pumpEnds_of_afterFrames h maxFrames hnone
      (pumpEnds_of_frame (atFrame_afterFrames h maxFrames hnone)
        (not_spent_afterFrames h maxFrames hnone) hending)

/-- If nothing ever ends the frames, the pump does not end. -/
theorem not_pumpEnds (hnone : ∀ k, l.ending? s maxFrames k = none)
    (result : Outcome × FrameLoop ρ) : ¬ PumpEnds maxFrames l result := by
  -- wherever the pump is, it is behind some number of its frames
  have hbehind : ∀ m, PumpEnds maxFrames m result → ∀ k, m ≠ l.afterFrames k := by
    intro m hends
    induction hends with
    | now hround =>
      rintro k rfl
      rw [round_afterFrames h maxFrames fun i _ => hnone i] at hround
      cases hround
    | later hround _ ih =>
      rintro k rfl
      rw [round_afterFrames h maxFrames fun i _ => hnone i] at hround
      exact ih (k + 1) (Sum.inl.inj hround).symm
  exact fun hends => hbehind l hends 0 rfl

theorem pumpEnds_iff {o : Outcome} {final : FrameLoop ρ} :
    PumpEnds maxFrames l (o, final) ↔
      ∃ k, StopsBehind l s maxFrames k o ∧ final = (l.afterFrames k).leave o := by
  constructor
  · intro hends
    obtain ⟨k, outcome, hstops⟩ : ∃ k outcome, StopsBehind l s maxFrames k outcome := by
      refine exists_stopsBehind_of_ending? ?_
      by_contra hnever
      exact not_pumpEnds h maxFrames (fun k => not_not.1 (not_exists.1 hnever k)) _ hends
    have hvalue := hends.pump_eq.symm.trans (pumpEnds_of_stopsBehind h maxFrames hstops).pump_eq
    obtain ⟨rfl, rfl⟩ := Prod.mk.inj hvalue
    exact ⟨k, hstops, rfl⟩
  · rintro ⟨k, hstops, rfl⟩
    exact pumpEnds_of_stopsBehind h maxFrames hstops

omit h in
/-- A number of frames that is given ends them, whether the caller or the script gives it. -/
theorem exists_stopsBehind_of_bounded (hbounded : maxFrames.isSome ∨ s.quitAfter.isSome) :
    ∃ k o, StopsBehind l s maxFrames k o := by
  refine exists_stopsBehind_of_ending? ?_
  rcases hbounded with hgiven | hgiven
  · obtain ⟨count, rfl⟩ := Option.isSome_iff_exists.1 hgiven
    refine ⟨(count - l.frames).toNat, fun hnone => ?_⟩
    have hleft := of_ending?_eq_none hnone
    simp only [spent, Option.any_some, decide_eq_false_iff_not] at hleft
    omega
  · obtain ⟨count, hcount⟩ := Option.isSome_iff_exists.1 hgiven
    refine ⟨(count - l.frames).toNat + 1, fun hnone => ?_⟩
    have hstays := (of_endingOf_eq_none hnone).2.1
    simp only [Script.quitsAt, hcount, Option.any_some, Bool.or_eq_false_iff,
      decide_eq_false_iff_not] at hstays
    omega

/-- The frame behind frames that nothing has ended takes the entry of the schedule for its
number. -/
theorem frame_takes_entry {k : Nat} (hnone : ∀ i ≤ k, l.ending? s maxFrames i = none) :
    (l.afterFrames k).frames = l.frames + k ∧
      (l.afterFrames k).frame = (l.afterFrames k).frameWith (s.inputsAt (l.frames + k)) := by
  have hat := atFrame_afterFrames h maxFrames hnone
  have hinputs : (l.afterFrames k).frontend.inputs = s.inputsAt (l.frames + k) := by
    rw [hat.frontend, h.frames]
    rfl
  exact ⟨frames_afterFrames h maxFrames hnone, by rw [frame_eq_frameWith, hinputs]⟩

/-- The frame loop and its script have counted every frame that has not been broken off. -/
theorem counted_afterFrames {k : Nat} {o : Outcome} (hstops : StopsBehind l s maxFrames k o) :
    (l.afterFrames k).frames = l.frames + o.counted k ∧
      (l.afterFrames k).frontend = .scripted (l.shown s (o.counted k)) := by
  cases k with
  | zero =>
    rw [o.counted_zero]
    exact ⟨rfl, h.frontend⟩
  | succ k =>
    have hnone : ∀ i ≤ k, l.ending? s maxFrames i = none :=
      fun i hi => hstops.first i (Nat.lt_succ_of_le hi)
    have hat := atFrame_afterFrames h maxFrames hnone
    have hframes := frames_afterFrames h maxFrames hnone
    have hending := hstops.ending
    rw [ending?] at hending
    rcases hat.frame with ⟨reason, hbroken, hfrontend, hsame⟩ | ⟨hends, hfrontend, hnext, -⟩
    · rw [endingOf_eq_broken_iff.2 hbroken] at hending
      obtain rfl := Option.some.inj hending
      exact ⟨hsame.trans hframes, hfrontend⟩
    · have hcounted : o.counted (k + 1) = k + 1 := by
        refine Outcome.counted_of_ne ?_ (k + 1)
        rintro reason rfl
        exact hends reason (endingOf_eq_broken_iff.1 hending)
      rw [hcounted, shown_succ]
      exact ⟨hnext.trans (by rw [hframes, Nat.add_assoc]), hfrontend⟩

end Frames

/-- Of a machine in range frames are not broken off. -/
theorem not_stopsBehind_broken {l : FrameLoop ρ} (hrange : l.emulator.InRange) (s : Script)
    (maxFrames : Option Int) (k : Nat) (reason : DrawError) :
    ¬ StopsBehind l s maxFrames k (.stopped (.broken reason)) := by
  rintro ⟨hending, -⟩
  cases k with
  | zero =>
    rw [ending?] at hending
    split at hending <;> cases hending
  | succ k =>
    have hlast : (l.afterFrames k).emulator.InRange := by
      clear hending
      induction k with
      | zero => exact hrange
      | succ k ih => exact inRange_frame ih
    exact frame_ne_broken hlast reason (endingOf_eq_broken_iff.1 hending)

/-- How frames are pumped. -/
structure PumpsFrames (l : FrameLoop ρ) (s : Script) (maxFrames : Option Int) : Prop where
  /-- the pump ends with what first ends the frames, and leaves the frame loop behind them -/
  ends : ∀ o final, PumpEnds maxFrames l (o, final) ↔
    ∃ k, StopsBehind l s maxFrames k o ∧ final = (l.afterFrames k).leave o
  value : ∀ result, PumpEnds maxFrames l result → l.pump maxFrames = result
  /-- it does end if the number of frames is given -/
  terminates : maxFrames.isSome ∨ s.quitAfter.isSome → ∃ result, PumpEnds maxFrames l result
  /-- each frame takes the entry of the schedule for its number, from the first frame on -/
  inputs : ∀ k o, StopsBehind l s maxFrames k o → ∀ i < k,
    (l.afterFrames i).frames = l.frames + i ∧
      (l.afterFrames i).frame = (l.afterFrames i).frameWith (s.inputsAt (l.frames + i))
  /-- the frame loop and the script count the frames alike, and the script counts those that end
  with sound and those that end paused -/
  counted : ∀ k o, StopsBehind l s maxFrames k o →
    ((l.afterFrames k).leave o).frames = (l.shown s (o.counted k)).frames ∧
      ((l.afterFrames k).leave o).frames = l.frames + o.counted k ∧
      ((l.afterFrames k).leave o).frontend = .scripted (l.shown s (o.counted k))
  /-- no frame is broken off as long as nobody puts a number out of range into a register -/
  unbroken : l.emulator.InRange → ∀ k reason,
    ¬ StopsBehind l s maxFrames k (.stopped (.broken reason))

/-- A frame loop that stands at the frame of its script, and of which nobody has asked for the end,
pumps frames until the first of them that ends it, by priority, and takes and counts each of them
once. -/
theorem pumpsFrames {l : FrameLoop ρ} {s : Script} (h : AtFrame l s) (maxFrames : Option Int) :
    PumpsFrames l s maxFrames where
  ends := fun _ _ => pumpEnds_iff h maxFrames
  value := fun _ hends => hends.pump_eq
  terminates := by
    intro hbounded
    obtain ⟨k, o, hstops⟩ := exists_stopsBehind_of_bounded (l := l) maxFrames hbounded
    exact ⟨_, pumpEnds_of_stopsBehind h maxFrames hstops⟩
  inputs := fun _ _ hstops _ hi =>
    frame_takes_entry h maxFrames fun j hj => hstops.first j (Nat.lt_of_le_of_lt hj hi)
  counted := by
    intro k o hstops
    obtain ⟨hframes, hfrontend⟩ := counted_afterFrames h maxFrames hstops
    have hleft := uncounted_leave (l.afterFrames k) o
    refine ⟨?_, hleft.frames.trans hframes, hleft.frontend.trans hfrontend⟩
    rw [hleft.frames, hframes, h.frames]
    rfl
  unbroken := fun hrange k reason => not_stopsBehind_broken hrange s maxFrames k reason

/-- The script of a front end that has shown two frames: it pauses in the next one, and asks for the
end in the one behind that. -/
def pausesAndQuits : Script :=
  { schedule := [(2, [.togglePause]), (3, [.key (fourBits 5), .quit, .step])], frames := 2 }

/-- A frame loop that follows this script, over a program that adds to a register without end. -/
def scheduled : FrameLoop Tape :=
  { emulator := (Emulator.initial {} (Tape.ofList [0])).after (.load [0x70, 0x01, 0x12, 0x00] 0x200)
    frontend := .scripted pausesAndQuits
    stopOnBreak := true
    frames := 2 }

theorem pumpsFrames_scheduled :
    AtFrame scheduled pausesAndQuits ∧ PumpsFrames scheduled pausesAndQuits (some 4) ∧
      scheduled.pump (some 4) = (.quit, (scheduled.afterFrames 2).leave .quit) ∧
      scheduled.shown pausesAndQuits 2 =
        { pausesAndQuits with frames := 4, pausedFrames := 2 } := by
  have hat : AtFrame scheduled pausesAndQuits := ⟨rfl, rfl, rfl⟩
  have hpumps := pumpsFrames hat (some 4)
  have hstops : StopsBehind scheduled pausesAndQuits (some 4) 2 .quit :=
    ⟨by decide +kernel, by decide +kernel⟩
  have hends := (hpumps.ends .quit _).2 ⟨2, hstops, rfl⟩
  exact ⟨hat, hpumps, hpumps.value _ hends, by decide +kernel⟩

end FrameLoop

end Chip8

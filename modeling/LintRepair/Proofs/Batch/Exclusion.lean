/-
One run at a time on a processor, however calls overlap.

* `isAccepted`: whether an answer is not that of a call that was turned away;
* `History.thin`, `History.afterThin`: events without the calls that are turned
  away, and what comes of them;
* `Abreast.thin`: without these calls everything else happens as it does with
  them;
* `calls_exclusive`: at most one run is under way at any moment, every other call
  is turned away at once, and the accepted runs do not notice.
-/
import LintRepair.Proofs.Batch.Made

namespace LintRepair.Batch

variable {R I : Processor → Processor → Prop} {h h' : History}

/-! ### Without the calls that are turned away -/

/-- Whether an answer is that of an accepted call. -/
def isAccepted (x : Job × Result) : Bool := x.2.fault? != some .busy

lemma isAccepted_of_answered {x : Job × Result} (h : Answered Unbusy x.2) :
    isAccepted x = true := by
  obtain ⟨l, lint?, same, unbusy⟩ := h
  rw [isAccepted, same]
  simpa [Ledger.result, Unbusy] using unbusy

/-- The events without the calls that are turned away when they happen one after
another. -/
def History.thin : History → List Event → List Event
  | _, [] => []
  | h, e :: rest => if h.rejects e then (h.act e).thin rest else e :: (h.act e).thin rest

/-- What comes of events on a processor without a past if those calls are not
made. -/
def History.afterThin (registry : Repair.Registry) (settings : Config.Settings)
    (events : List Event) : History :=
  after registry settings ((start registry settings).thin events)

/-- A call that is turned away leaves histories in step. -/
lemma Abreast.reject (abreast : Abreast R I Unbusy h h') {e : Event}
    (rejects : h.rejects e = true) : Abreast R I Unbusy (h.act e) h' ∧
      ∃ x, (h.act e).answers = h.answers ++ [x] ∧ isAccepted x = false := by
  cases e with
  | resume place => cases rejects
  | deed d => cases rejects
  | call s job =>
      rw [History.act_of_running rejects]
      refine ⟨?_, (job, job.rejected), List.map_append, rfl⟩
      cases abreast with
      | idle none none' same => exact .idle none none' same
      | busy one one' same now later => exact .busy one one' same now later

/-- Without the calls that are turned away everything else happens as it does
with them. -/
lemma Abreast.thin (abreast : Abreast R I Unbusy h h')
    (lasts : Lasting R I Unbusy fun _ => True) (events : List Event) :
    Abreast R I Unbusy (h.acts events) (h'.acts (h.thin events)) ∧
      ∃ news, (h.acts events).answers = h.answers ++ news ∧
        (h'.acts (h.thin events)).answers = h'.answers ++ news.filter isAccepted := by
  induction events generalizing h h' with
  | nil => exact ⟨abreast, [], (List.append_nil _).symm, (List.append_nil _).symm⟩
  | cons e rest ih =>
      rw [History.thin]
      by_cases rejects : h.rejects e = true
      · rw [if_pos rejects]
        obtain ⟨next, x, grown, other⟩ := abreast.reject rejects
        obtain ⟨last, news, grown', grown''⟩ := ih next
        refine ⟨last, x :: news, ?_, ?_⟩
        · exact grown'.trans (by rw [grown, List.append_assoc]; rfl)
        · rw [List.filter_cons_of_neg (by simp [other])]
          exact grown''
      · rw [if_neg rejects]
        obtain ⟨next, news, grown, grown', good⟩ := abreast.act lasts e fun _ _ => trivial
        obtain ⟨last, news', grown'', grown'''⟩ := ih next
        have kept : news.filter isAccepted = news := List.filter_eq_self.mpr fun x hx =>
          isAccepted_of_answered (good (by simpa using rejects) x hx)
        refine ⟨last, news ++ news', ?_, ?_⟩
        · exact grown''.trans (by rw [grown, List.append_assoc])
        · rw [List.filter_append, kept]
          exact grown'''.trans (by rw [grown', List.append_assoc])

/-! ### Calls in any order -/

/-- **One run at a time.** However calls are made on a processor, pause and go
on, with anything done to it in between, at most one of them is under way. While
one is, every other call is answered at once, with its own text, without repairs
and failures and as unsuccessful, and changes nothing. Without these calls the
processor would come to stand as it does, with the same job under way, and the
accepted calls would be answered as they are. -/
theorem calls_exclusive (registry : Repair.Registry) (settings : Config.Settings)
    (events : List Event) :
    ((History.after registry settings events).waiting.length ≤ 1 ∧
      ((History.after registry settings events).processor.running = true ↔
        (History.after registry settings events).waiting ≠ [])) ∧
    (∀ s job, (History.after registry settings events).processor.running = true →
      History.after registry settings (events ++ [.call s job]) =
        { History.after registry settings events with
          calls := (History.after registry settings events).calls + 1
          replies := (History.after registry settings events).replies ++
            [(⟨(History.after registry settings events).calls, job⟩, job.rejected)] } ∧
      job.rejected.code = job.code ∧ job.rejected.applied = [] ∧ job.rejected.failed = [] ∧
      job.rejected.isSuccess = false) ∧
    (History.afterThin registry settings events).processor =
      (History.after registry settings events).processor ∧
    (History.afterThin registry settings events).waiting.map (·.1.job) =
      (History.after registry settings events).waiting.map (·.1.job) ∧
    (History.afterThin registry settings events).answers =
      (History.after registry settings events).answers.filter isAccepted := by
  have lasts := lasting_made registry settings
  have started := abreast_start registry settings
  obtain ⟨abreast, -⟩ := started.acts lasts events fun _ _ => trivial
  obtain ⟨thinned, news, grown, grown'⟩ := started.thin lasts events
  refine ⟨abreast.alone lasts, fun s job running => ⟨?_, rfl, rfl, rfl, rfl⟩, ?_, ?_, ?_⟩
  · rw [History.after, History.acts_append]
    exact History.act_of_running running s job
  · cases thinned with
    | idle _ _ same => exact same.1
    | busy _ _ _ same => exact same.1
  · cases thinned with
    | idle none none' => exact (congrArg _ none').trans (congrArg _ none).symm
    | busy one one' job =>
        have jobs := congrArg (List.map (·.1.job)) one
        have jobs' := congrArg (List.map (·.1.job)) one'
        exact jobs'.trans ((congrArg (fun j => [j]) job).trans jobs.symm)
  · exact grown'.trans (congrArg (List.filter isAccepted) grown).symm

/-- A call that is made in the pause of a run is answered first, as turned away. -/
example : ((History.after scribe.registry {}
    [.call lenient faltering, .call lenient faltering, .resume 0]).answers.map isAccepted) =
      [false, true] := by
  decide +kernel

end LintRepair.Batch

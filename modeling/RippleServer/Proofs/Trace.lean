/-
This file shows which computations leave the reserved events alone. Whatever the
loader, the SDK and the extension do between two changes of state, they ask the
loader and tell the log, and so does a session that is asked for anything but
the handshake. The states a session enters, the failures it reports and the
messages the server sends can therefore be read off a few lines of code.
-/

import RippleServer.Session

namespace RippleServer

/-! ### What a modest computation does not show -/

namespace Traced

/-- A view that only shows reserved events shows nothing of a modest computation. -/
theorem Modest.filterMap_eq_nil {α β : Type} {traced : Traced α} (modest : traced.Modest)
    {view : Event → Option β} (narrow : ∀ event, event.isReserved = false → view event = none) :
    traced.events.filterMap view = [] :=
  List.filterMap_eq_nil_iff.mpr fun event member => narrow event (modest event member)

theorem Modest.entered_eq_nil {α : Type} {traced : Traced α} (modest : traced.Modest) :
    traced.entered = [] :=
  modest.filterMap_eq_nil fun event free => by cases event <;> first | rfl | cases free

theorem Modest.sent_eq_nil {α : Type} {traced : Traced α} (modest : traced.Modest) :
    traced.sent = [] :=
  modest.filterMap_eq_nil fun event free => by cases event <;> first | rfl | cases free

end Traced

/-! ### The parts of a handshake are modest -/

theorem Messages.tryTable_modest (loader : Loader) (root : Path) (candidate : String) :
    (tryTable loader root candidate).Modest := by
  refine (loader.fetchJson_modest _).bind fun answer => ?_
  cases answer with
  | error error =>
    cases error with
    | notFound _ => exact Traced.modest_pure _
    | unreadable _ _ | malformed _ _ | incompatible _ _ =>
      exact (Traced.modest_emit rfl).bind fun _ => Traced.modest_pure _
  | ok value =>
    dsimp only
    split
    · exact Traced.modest_pure _
    · exact (Traced.modest_emit rfl).bind fun _ => Traced.modest_pure _

theorem Messages.firstUsable_modest (loader : Loader) (root : Path) (candidates : List String) :
    (firstUsable loader root candidates).Modest := by
  induction candidates with
  | nil => exact Traced.modest_pure _
  | cons candidate rest inductionHypothesis =>
    refine (tryTable_modest loader root candidate).bind fun found => ?_
    cases found with
    | none => exact inductionHypothesis
    | some messages => exact Traced.modest_pure _

theorem Sdk.readVersion_modest (loader : Loader) (root : Path) :
    (readVersion loader root).run.Modest := by
  unfold readVersion
  split
  · exact Traced.modest_pure _
  · refine Attempt.modest_bind ((loader.fetchJson_modest _).map _) fun answer => ?_
    split
    · exact Attempt.modest_bind (Attempt.modest_emit rfl) fun _ => Traced.modest_pure _
    · split
      · exact Traced.modest_pure _
      · split
        · exact Traced.modest_pure _
        · exact Attempt.modest_bind (Attempt.modest_emit rfl) fun _ => Traced.modest_pure _

theorem Sdk.load_modest (loader : Loader) (root : Path) (locale : String) :
    (load loader root locale).run.Modest :=
  Attempt.modest_bind (loader.fetch_modest _) fun _ =>
    Attempt.modest_bind (readVersion_modest loader root) fun _ =>
      Attempt.modest_bind ((Messages.firstUsable_modest loader root _).map _) fun _ =>
        Attempt.modest_bind (Attempt.modest_emit rfl) fun _ => Traced.modest_pure _

namespace Handshake

theorem load_modest (surroundings : Surroundings) (dependencies : Dependencies)
    (locale : String) : (load surroundings dependencies locale).run.Modest :=
  Attempt.modest_bind ((surroundings.loader.fetch_modest _).map _) fun _ =>
    Attempt.modest_bind ((Sdk.load_modest surroundings.loader _ _).map _) fun _ =>
      Attempt.modest_bind (surroundings.extensions.load_modest _) fun _ => Traced.modest_pure _

theorem compose_modest (loaded : Loaded) (params : InitializeParams) :
    (compose loaded params).run.Modest :=
  Attempt.modest_bind ((Traced.modest_pure _).map _) fun _ =>
    Attempt.modest_bind ((loaded.extensions.servicePlugins_modest _).map _) fun _ =>
      Attempt.modest_bind ((Traced.modest_pure _).map _) fun _ => Traced.modest_pure _

end Handshake

/-! ### So are the operations that leave the state alone -/

theorem ProjectService.projectFor_modest (service : ProjectService) (root : Path) :
    (service.projectFor root).Modest := by
  unfold projectFor
  split
  · exact Traced.modest_pure _
  · exact (Traced.modest_emit rfl).bind fun _ => Traced.modest_pure _

theorem ProjectService.projectForDocument_modest (service : ProjectService) (document : Path) :
    (service.projectForDocument document).Modest :=
  service.projectFor_modest _

theorem Watcher.watch_modest (watcher : Watcher) (patterns : List String) :
    (watcher.watch patterns).Modest := by
  unfold watch
  dsimp only
  split
  · exact (Traced.modest_emit rfl).bind fun _ => Traced.modest_pure _
  · exact (Traced.modest_emit rfl).bind fun _ => Traced.modest_pure _

namespace Session

theorem initialized_modest (session : Session) : session.initialized.Modest := by
  unfold initialized
  split
  · exact Traced.modest_pure _
  · split
    · exact (Watcher.watch_modest _ _).bind fun _ => Traced.modest_pure _
    · exact (Traced.modest_emit rfl).bind fun _ => Traced.modest_pure _

theorem openDocument_modest (session : Session) (uri : Uri) :
    (session.openDocument uri).Modest := by
  unfold openDocument
  split
  · exact Traced.modest_pure _
  · split
    · exact (Traced.modest_emit rfl).bind fun _ => Traced.modest_pure _
    · exact (ProjectService.projectForDocument_modest _ _).bind fun _ => Traced.modest_pure _

end Session

end RippleServer

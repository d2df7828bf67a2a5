/-
This file takes the handshake apart. A session enters a state before each of the
three stages and after the last one that was tried; apart from these states, the
events and the outcome are those of the stages in a row. So what is asked of the
loader and what is said to the client can be read off the stages alone, and the
states a session enters off the point where they end.
-/

import RippleServer.Proofs.Trace

namespace RippleServer

/-- The three stages in a row, without a session. -/
def Handshake.stages (surroundings : Surroundings) (params : InitializeParams) :
    Attempt InitializeError ComposedServer := do
  let dependencies ← Attempt.ofExcept (resolve surroundings.environment params)
  let loaded ← load surroundings dependencies (localeOf params)
  compose loaded params

theorem Handshake.stages_modest (surroundings : Surroundings) (params : InitializeParams) :
    (stages surroundings params).run.Modest :=
  Attempt.modest_bind (Traced.modest_pure _) fun _ =>
    Attempt.modest_bind (load_modest _ _ _) fun _ => compose_modest _ _

namespace Session

/-! ### How far the stages come -/

variable {surroundings : Surroundings} {params : InitializeParams} {dependencies : Dependencies}
  {error : InitializeError}

theorem compose_of_unresolved (session : Session)
    (unresolved : Handshake.resolve surroundings.environment params = .error error) :
    session.compose surroundings params =
      ⟨(.error error, { session with state := .resolving }),
        [.transition session.state .resolving]⟩ := by
  ext1 <;> simp [compose, enter, unresolved]

theorem compose_of_unloaded (session : Session)
    (resolved : Handshake.resolve surroundings.environment params = .ok dependencies)
    (unloaded : (Handshake.load surroundings dependencies
      (Handshake.localeOf params)).run.value = .error error) :
    session.compose surroundings params =
      ⟨(.error error, { session with state := .loading }),
        [.transition session.state .resolving, .transition .resolving .loading] ++
          (Handshake.load surroundings dependencies (Handshake.localeOf params)).run.events⟩ := by
  ext1 <;> simp [compose, enter, resolved, unloaded]

theorem compose_of_loaded (session : Session) {loaded : Loaded}
    (resolved : Handshake.resolve surroundings.environment params = .ok dependencies)
    (loads : (Handshake.load surroundings dependencies
      (Handshake.localeOf params)).run.value = .ok loaded) :
    session.compose surroundings params =
      ⟨((Handshake.compose loaded params).run.value, { session with state := .composing }),
        [.transition session.state .resolving, .transition .resolving .loading] ++
          (Handshake.load surroundings dependencies (Handshake.localeOf params)).run.events ++
          .transition .loading .composing :: (Handshake.compose loaded params).run.events⟩ := by
  ext1 <;> simp [compose, enter, resolved, loads]

/-- The stages decide the outcome, and all events but the changes of state. -/
theorem compose_eq_stages (surroundings : Surroundings) (session : Session)
    (params : InitializeParams) {β : Type} {view : Event → Option β}
    (blind : ∀ source target, view (.transition source target) = none) :
    (session.compose surroundings params).value.1 =
        (Handshake.stages surroundings params).run.value ∧
      (session.compose surroundings params).events.filterMap view =
        (Handshake.stages surroundings params).run.events.filterMap view := by
  have first := Attempt.run_ofExcept (Handshake.resolve surroundings.environment params)
  unfold Handshake.stages
  cases resolved : Handshake.resolve surroundings.environment params with
  | error error =>
    rw [resolved] at first
    rw [compose_of_unresolved session resolved,
      Attempt.run_bind_of_error (congrArg Traced.value first), first]
    simp [blind]
  | ok dependencies =>
    rw [resolved] at first
    rw [Attempt.run_bind_of_ok (congrArg Traced.value first), first]
    cases loads : (Handshake.load surroundings dependencies
        (Handshake.localeOf params)).run.value with
    | error error =>
      rw [compose_of_unloaded session resolved loads, Attempt.run_bind_of_error loads]
      simp [blind]
    | ok loaded =>
      rw [compose_of_loaded session resolved loads, Attempt.run_bind_of_ok loads]
      simp [blind]

/-! ### What the session makes of them -/

variable {session : Session}

theorem establish_of_opened (opened : session.state ≠ .uninitialized) :
    session.establish surroundings params =
      ⟨(.error (.alreadyInitialized session.state), session),
        [.reported ⟨reportContext, .alreadyInitialized session.state⟩]⟩ := by
  ext1 <;> simp [establish, opened]

theorem establish_of_composed {server : ComposedServer} {reached : Session}
    (new : session.state = .uninitialized)
    (composed : (session.compose surroundings params).value = (.ok server, reached)) :
    session.establish surroundings params =
      ⟨(.ok server, { reached with server := some server, state := .ready }),
        (session.compose surroundings params).events ++
          [.sessionReady server.plugins.plugins.length server.compiler.path server.sdk.root,
            .transition reached.state .ready]⟩ := by
  ext1 <;> simp [establish, new, composed, enter]

theorem establish_of_failed {reached : Session} (new : session.state = .uninitialized)
    (failed : (session.compose surroundings params).value = (.error error, reached)) :
    session.establish surroundings params =
      ⟨(.error error, { reached with state := .failed }),
        (session.compose surroundings params).events ++
          [.reported ⟨reportContext, error⟩, .transition reached.state .failed]⟩ := by
  ext1 <;> simp [establish, new, failed, enter]

/-- The handshake of a new session has the outcome of its stages, and but for the changes of state
and what is told about the outcome, it has their events. -/
theorem establish_eq_stages (new : session.state = .uninitialized) {β : Type}
    (view : Event → Option β)
    (blindToStates : ∀ source target, view (.transition source target) = none)
    (blindToFailure : ∀ report, view (.reported report) = none)
    (blindToSuccess : ∀ plugins compiler root, view (.sessionReady plugins compiler root) = none) :
    (session.establish surroundings params).value.1 =
        (Handshake.stages surroundings params).run.value ∧
      (session.establish surroundings params).events.filterMap view =
        (Handshake.stages surroundings params).run.events.filterMap view := by
  obtain ⟨outcomeEq, eventsEq⟩ := compose_eq_stages surroundings session params blindToStates
  rw [← outcomeEq, ← eventsEq]
  rcases composed : (session.compose surroundings params).value with ⟨outcome, reached⟩
  cases outcome with
  | ok server =>
    rw [establish_of_composed new composed]
    simp [blindToStates, blindToSuccess]
  | error error =>
    rw [establish_of_failed new composed]
    simp [blindToStates, blindToFailure]

end Session

end RippleServer

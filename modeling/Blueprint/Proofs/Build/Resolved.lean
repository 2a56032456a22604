import Blueprint.Proofs.Build.Routing
import Blueprint.Proofs.Registry.Pieces

/-!
# Runs of resolved factories

Where the factory of a run compiles and its model class and attributes are found, the rest of the
run begins with its overrides. Either two of their canonical keys clash and nothing more is done, or
the plan for them is carried out.
-/
namespace Blueprint

namespace World

/-- All that a run needs before it looks at its overrides is there. -/
structure Opens (world : World) (id : FactoryId) (choice : Value) (strategy : Strategy)
    (model : Value) (list : AttributeList) (ready : Registry) : Prop where
  /-- The strategy is chosen. -/
  chosen : Strategy.ofProxy choice = .ok strategy
  /-- The factory compiles, its model class is found, and its attributes are resolved. -/
  resolved : ∃ compiled classed, world.registry.compile id = (.ok (), compiled) ∧
    Registry.model id compiled = (.ok model, classed) ∧
    Registry.attributes id classed = (.ok list, ready)

namespace Opens

variable {world : World} {id : FactoryId} {choice : Value} {strategy : Strategy} {model : Value}
  {list : AttributeList} {ready : Registry}

/-- The attributes have distinct names. -/
theorem distinct (opens : world.Opens id choice strategy model list ready) :
    (list.attributes.map Attribute.name).Nodup := by
  obtain ⟨_, _, _, _, resolved⟩ := opens.resolved
  exact Registry.nodup_resolve (Registry.attributes_eq_ok resolved).2

/-- Of the registry only factories have changed. -/
theorem reworks (opens : world.Opens id choice strategy model list ready) :
    world.registry.Reworks ready := by
  obtain ⟨compiled, classed, compiles, made, resolved⟩ := opens.resolved
  have first := Registry.Reworks.compile world.registry id
  have second := Registry.Reworks.model compiled id
  have third := Registry.Reworks.compile classed id
  rw [compiles] at first
  rw [made] at second
  rw [← Registry.snd_attributes, resolved] at third
  exact first.trans (second.trans third)

/-- A run fails as its overrides do, or carries out the plan for them. -/
theorem run_next (opens : world.Opens id choice strategy model list ready) (runner : Runner)
    (overrides : Dict) :
    (runner.next id choice overrides).run world =
      let name := ((ready.factory? id).map Factory.name).getD ""
      let proxy := Proxy.fresh strategy model list.callbacks
      let finalizer := (ready.factory? id).bind Factory.finalizer
      match Build.canonicalOverrides name overrides with
      | .ok given =>
        let plan := Plan.make ready.aliasesFor list.attributes given
        (Build.carryOut runner proxy plan finalizer).run { world with registry := ready }
      | .error fault => (.error fault, { world with registry := ready }) := by
  obtain ⟨compiled, classed, compiles, made, resolved⟩ := opens.resolved
  rw [Runner.next, run_bind, Build.run_onRegistry, compiles]
  simp only
  rw [run_bind, opens.chosen]
  show ((Build.onRegistry (Registry.model id) >>= _) : Build Value).run
    { world with registry := compiled } = _
  rw [run_bind, Build.run_onRegistry, made]
  simp only
  rw [run_bind, Build.run_onRegistry, resolved]
  simp only
  rw [run_bind, Build.run_ask]
  simp only
  rw [run_bind]
  cases Build.canonicalOverrides (((ready.factory? id).map Factory.name).getD "") overrides <;> rfl

/-- A run whose overrides have distinct keys carries out the plan for them. -/
theorem run_next_of_nodup (opens : world.Opens id choice strategy model list ready)
    (runner : Runner) {overrides : Dict}
    (distinct : (overrides.map fun pair => Name.ofKey pair.1).Nodup) :
    (runner.next id choice overrides).run world =
      let given := overrides.map fun pair => (Name.ofKey pair.1, pair.2)
      let proxy := Proxy.fresh strategy model list.callbacks
      let finalizer := (ready.factory? id).bind Factory.finalizer
      let plan := Plan.make ready.aliasesFor list.attributes given
      (Build.carryOut runner proxy plan finalizer).run { world with registry := ready } := by
  rw [opens.run_next]
  simp only [Build.canonicalOverrides_of_nodup _ distinct]

end Opens

end World

end Blueprint

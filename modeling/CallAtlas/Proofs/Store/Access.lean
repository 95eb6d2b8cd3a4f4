import CallAtlas.Store.Access

namespace CallAtlas

theorem eq_ok_of_toOption {ε α : Type} {x : Except ε α} {a : α} (h : x.toOption = some a) :
    x = .ok a := by
  cases x with
  | error e => contradiction
  | ok b => rw [Option.some.inj h]

namespace Store.Access

variable [Engine] {α β : Type} {source : Source} {cache cache' : Cache}

@[simp] theorem run_pure (a : α) : (pure a : Access α).run source cache = (.ok a, cache) := rfl

@[simp] theorem run_throw (e : Failure) :
    (throw e : Access α).run source cache = (.error e, cache) := rfl

@[simp] theorem run_get : (get : Access Cache).run source cache = (.ok cache, cache) := rfl

@[simp] theorem run_read : (read : Access Source).run source cache = (.ok source, cache) := rfl

@[simp] theorem run_modify (f : Cache → Cache) :
    (modify f : Access Unit).run source cache = (.ok (), f cache) := rfl

@[simp] theorem run_lift (x : Except Failure α) : (lift x).run source cache = (x, cache) := by
  cases x <;> rfl

/-- A failure keeps what has been put into the cache until then. -/
theorem run_bind (x : Access α) (f : α → Access β) :
    (x >>= f).run source cache =
      match x.run source cache with
      | (.ok a, cache') => (f a).run source cache'
      | (.error e, cache') => (.error e, cache') := by
  unfold run
  rw [ReaderT.run_bind, ExceptT.run_bind, StateT.run_bind, Id.run_bind]
  obtain ⟨_ | _, _⟩ := Id.run (StateT.run (ExceptT.run (ReaderT.run x source)) cache)
  · rfl
  · rfl

theorem run_tryCatch (x : Access α) (f : Failure → Access α) :
    (tryCatch x f).run source cache =
      match x.run source cache with
      | (.ok a, cache') => (.ok a, cache')
      | (.error e, cache') => (f e).run source cache' := by
  have hread : (tryCatch x f).run source cache =
      Id.run (StateT.run (ExceptT.run
        (tryCatch (ReaderT.run x source) fun e => ReaderT.run (f e) source)) cache) := rfl
  rw [hread, ExceptT.run_tryCatch, StateT.run_bind, Id.run_bind]
  unfold run
  obtain ⟨_ | _, _⟩ := Id.run (StateT.run (ExceptT.run (ReaderT.run x source)) cache)
  · rfl
  · rfl

theorem run_bind_of_ok {x : Access α} {a : α} (h : x.run source cache = (.ok a, cache'))
    (f : α → Access β) : (x >>= f).run source cache = (f a).run source cache' := by
  rw [run_bind, h]

theorem run_bind_of_error {x : Access α} {e : Failure} (h : x.run source cache = (.error e, cache'))
    (f : α → Access β) : (x >>= f).run source cache = (.error e, cache') := by
  rw [run_bind, h]

end Store.Access
end CallAtlas

/-
  MapTheme.Filter.Properties — the properties of a feature: a finite map from keys to values.

  Keys are distinct, so the order of the entries cannot be seen through `get?` or a search for an
  entry. A missing key reads as the empty value.
-/

namespace MapTheme

structure Properties where
  entries : List (String × String)
  distinct : (entries.map (·.1)).Nodup

namespace Properties

def empty : Properties := ⟨[], List.nodup_nil⟩

def get? (p : Properties) (key : String) : Option String := p.entries.lookup key

/-- The value of a key; empty when the key is missing. -/
def value (p : Properties) (key : String) : String := (p.get? key).getD ""

def put (entries : List (String × String)) (key value : String) : List (String × String) :=
  if (entries.map (·.1)).contains key then entries.map fun e => if e.1 = key then (key, value) else e
  else entries ++ [(key, value)]

theorem keys_put (entries : List (String × String)) (key value : String) :
    (put entries key value).map (·.1) =
      if (entries.map (·.1)).contains key then entries.map (·.1) else entries.map (·.1) ++ [key] := by
  unfold put
  split
  · rw [List.map_map]
    apply List.map_congr_left
    intro e _
    simp only [Function.comp]
    split <;> simp_all
  · simp

theorem nodup_put {entries : List (String × String)} (h : (entries.map (·.1)).Nodup) (key value : String) :
    ((put entries key value).map (·.1)).Nodup := by
  rw [keys_put]
  split
  · exact h
  · rename_i hk
    rw [List.nodup_append]
    refine ⟨h, by simp, ?_⟩
    intro a ha b hb
    simp only [List.mem_singleton] at hb
    subst hb
    rintro rfl
    exact hk (List.contains_iff_mem.mpr ha)

/-- The map with `key` set to `value`. -/
def insert (p : Properties) (key value : String) : Properties :=
  ⟨put p.entries key value, nodup_put p.distinct key value⟩

def ofList (pairs : List (String × String)) : Properties := pairs.foldl (fun p (k, v) => p.insert k v) empty

/-- Only `key`, or nothing when the value is empty. -/
def assigned (key value : String) : Properties := if value.isEmpty then empty else empty.insert key value

/-- Is there an entry whose key and value pass the test? -/
def any (p : Properties) (test : String → String → Bool) : Bool := p.entries.any fun e => test e.1 e.2

end Properties

end MapTheme

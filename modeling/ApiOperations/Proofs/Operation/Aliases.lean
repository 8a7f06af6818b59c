import ApiOperations.Proofs.Operation.Naming

/-!
Aliases of operations that are named by their ids.

The name that aliases are looked up for is the id from its first letter on, not the id as it is
declared. The two are the same if the id starts with a letter. Otherwise an alias of the declared id is
never looked at, and one of the stripped id is used in its place.
-/

namespace ApiOperations

open ApiOperations.Text
open ApiOperations.Description (Document)

/-! ### The text from its first letter on -/

namespace Name

variable {s t : String}

/-- The first character is a letter. -/
def StartsWithLetter (s : String) : Prop :=
  ∃ c ∈ s.toList.head?, isAlphabetic c = true

lemma fromFirstLetter?_append {skipped : String} (ht : StartsWithLetter t)
    (hskipped : ∀ c ∈ skipped.toList, isAlphabetic c = false) :
    fromFirstLetter? (skipped ++ t) = some t := by
  obtain ⟨c, hc, hletter⟩ := ht
  obtain ⟨cs, hcs⟩ := List.head?_eq_some_iff.mp hc
  have hdrop : ((skipped ++ t).toList.dropWhile fun c => !isAlphabetic c) = t.toList := by
    rw [String.toList_append, List.dropWhile_append_of_pos fun c hc => by simp [hskipped c hc], hcs]
    exact List.dropWhile_cons_of_neg (by simp [hletter])
  rw [fromFirstLetter?, hdrop, hcs]
  show some (String.ofList (c :: cs)) = some t
  rw [← hcs, String.ofList_toList]

lemma StartsWithLetter.eq_of_append {skipped : String} (hs : StartsWithLetter (skipped ++ t))
    (ht : StartsWithLetter t) (hskipped : ∀ c ∈ skipped.toList, isAlphabetic c = false) :
    skipped ++ t = t := by
  have hwhole : fromFirstLetter? ("" ++ (skipped ++ t)) = some (skipped ++ t) :=
    fromFirstLetter?_append hs (by simp)
  rw [String.empty_append, fromFirstLetter?_append ht hskipped] at hwhole
  exact (Option.some.inj hwhole).symm

lemma exists_fromFirstLetter? (h : ∃ c ∈ s.toList, isAlphabetic c = true) :
    ∃ skipped t, s = skipped ++ t ∧ (∀ c ∈ skipped.toList, isAlphabetic c = false) ∧
      StartsWithLetter t := by
  obtain ⟨c, hc⟩ := Option.isSome_iff_exists.mp (List.find?_isSome.mpr h)
  obtain ⟨hletter, before, after, hs, hbefore⟩ := List.find?_eq_some_iff_append.mp hc
  refine ⟨String.ofList before, String.ofList (c :: after), ?_, ?_, c, ?_, hletter⟩
  · rw [← String.toList_inj, String.toList_append, String.toList_ofList, String.toList_ofList, hs]
  · intro b hb
    rw [String.toList_ofList] at hb
    simpa using hbefore b hb
  · rw [String.toList_ofList]
    rfl

end Name

namespace Operation

open ApiOperations.Name (StartsWithLetter fromFirstLetter?)

variable {d : Document} {o : Options} {isError : Status → Bool} {path id key : String}
  {method : Method} {op : Description.Operation} {inherited : ParameterTable} {built : Operation}

/-- Aliases change nothing of an operation but its name. -/
lemma buildWith_aliases (h : buildWith d o isError path method op inherited = .ok built)
    (aliases : Table String) :
    buildWith d { o with aliases } isError path method op inherited =
      .ok { built with name := nameOf { o with aliases } (rawName o path method op) } := by
  obtain ⟨r, hr, rfl⟩ := buildWith_eq_ok_iff.mp h
  exact buildWith_eq_ok_iff.mpr ⟨r, hr, rfl⟩

lemma name_of_buildWith (h : buildWith d o isError path method op inherited = .ok built) :
    built.name = nameOf o (rawName o path method op) := by
  obtain ⟨r, -, rfl⟩ := buildWith_eq_ok_iff.mp h
  rfl

lemma rawName_of_id (hnaming : o.naming = .operationId) (hid : op.operationId = some id)
    (hkey : fromFirstLetter? id = some key) : rawName o path method op = key := by
  simp only [rawName, hnaming, Name.rawOfId, hid, Option.bind_some, hkey, Option.getD_some]

/-- **Aliases.** An operation that is named by its id gets its name from the id as it is from its first
letter on: the alias of that text if there is one, or the text itself. Other aliases do not matter. So
the alias of the declared id is always the one that counts if and only if the id starts with a
letter. -/
theorem name_of_id (hnaming : o.naming = .operationId) (hid : op.operationId = some id)
    (hletter : ∃ c ∈ id.toList, isAlphabetic c = true)
    (hbuilt : buildWith d o isError path method op inherited = .ok built) :
    ∃ skipped key, id = skipped ++ key ∧ (∀ c ∈ skipped.toList, isAlphabetic c = false) ∧
      StartsWithLetter key ∧ built.name = Name.ofString ((o.aliases.lookup key).getD key) ∧
      (∀ aliases : Table String, aliases.lookup key = o.aliases.lookup key →
        buildWith d { o with aliases } isError path method op inherited = .ok built) ∧
      ((∀ (aliases : Table String) (other : String) (renamed : Operation),
          aliases.lookup id = some other →
          buildWith d { o with aliases } isError path method op inherited = .ok renamed →
            renamed.name = Name.ofString other) ↔ StartsWithLetter id) := by
  obtain ⟨skipped, key, rfl, hskipped, hkey⟩ := Name.exists_fromFirstLetter? hletter
  have hraw : rawName o path method op = key :=
    rawName_of_id hnaming hid (Name.fromFirstLetter?_append hkey hskipped)
  have hname : built.name = nameOf o key := by rw [name_of_buildWith hbuilt, hraw]
  have hwith : ∀ aliases : Table String,
      buildWith d { o with aliases } isError path method op inherited =
        .ok { built with name := Name.ofString ((aliases.lookup key).getD key) } := by
    intro aliases
    rw [buildWith_aliases hbuilt, hraw]
    rfl
  refine ⟨skipped, key, rfl, hskipped, hkey, hname, fun aliases hsame => ?_, ?_, ?_⟩
  · rw [hwith, hsame]
    exact congrArg (fun name => Except.ok { built with name }) hname.symm
  · -- with the declared id for its own alias, nothing of it may be stripped
    intro hall
    by_cases hsame : key = skipped ++ key
    · exact hsame ▸ hkey
    · have hself : List.lookup (skipped ++ key) [(skipped ++ key, skipped ++ key)] =
          some (skipped ++ key) := List.lookup_cons_self
      have hmissed : List.lookup key [(skipped ++ key, skipped ++ key)] = none := by
        rw [List.lookup_eq_none_iff]
        simpa using hsame
      have hforced := congrArg Name.original (hall _ _ _ hself (hwith _))
      rw [hmissed] at hforced
      exact absurd hforced hsame
  · intro hstarts aliases other renamed hother hrenamed
    have hsame : skipped ++ key = key := hstarts.eq_of_append hkey hskipped
    rw [hwith, ← hsame, hother] at hrenamed
    cases hrenamed
    rfl

/-- An operation of which nothing but its tag and its id is known. -/
def identified (id : String) : Description.Operation :=
  { tagged "pets" with operationId := some id }

/-- Default options with aliases for an id as it is declared and as it is looked up. -/
def aliased : Options :=
  { Settings.default.toOptions with
    aliases := [("_getPet", "fetchPet"), ("getPet", "load pet")] }

theorem name_of_id_renamed :
    aliased.naming = .operationId ∧ (∃ c ∈ "_getPet".toList, isAlphabetic c = true) ∧
    ∃ built, buildWith bare aliased (fun _ => false) "/pets" .get (identified "_getPet") .empty =
        .ok built ∧ built.name = Name.ofString "load pet" ∧
      ¬∀ (aliases : Table String) (other : String) (renamed : Operation),
        aliases.lookup "_getPet" = some other →
        buildWith bare { aliased with aliases } (fun _ => false) "/pets" .get
          (identified "_getPet") .empty = .ok renamed → renamed.name = Name.ofString other := by
  have hletter : ∃ c ∈ "_getPet".toList, isAlphabetic c = true := ⟨'g', by simp, by decide⟩
  have hbuilt : buildWith bare aliased (fun _ => false) "/pets" .get (identified "_getPet") .empty =
      .ok _ := rfl
  have hid : (identified "_getPet").operationId = some "_getPet" := rfl
  obtain ⟨-, -, -, -, -, -, -, hall⟩ := name_of_id rfl hid hletter hbuilt
  refine ⟨rfl, hletter, _, hbuilt, by decide +kernel, fun h => ?_⟩
  obtain ⟨c, hc, hc'⟩ := hall.mp h
  cases hc
  exact absurd hc' (by decide)

/-- The declared id has an alias, and the operation does not get its name. -/
theorem alias_missed_of_id :
    let o := { Settings.default.toOptions with aliases := [("_getPet", "fetchPet")] }
    o.naming = .operationId ∧ (∃ c ∈ "_getPet".toList, isAlphabetic c = true) ∧
    o.aliases.lookup "_getPet" = some "fetchPet" ∧
    ∃ built, build bare o "/pets" .get (identified "_getPet") .empty = .ok built ∧
      built.name = Name.ofString "getPet" ∧ built.name ≠ Name.ofString "fetchPet" := by
  intro o
  exact ⟨rfl, ⟨'g', by simp, by decide⟩, rfl, _, rfl, by decide +kernel, by decide +kernel⟩

end Operation

end ApiOperations

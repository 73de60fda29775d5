import GatedModules.Proofs.Lookup
import GatedModules.Proofs.ModuleGrammar

/-!
# The grammar of registries

Some values are read as a registry just where each of them describes a module and no two have one
name. Otherwise the first of them that describes no module or has a name that is taken is reported,
whatever comes after it. However a name is looked up in a registry, the answer is the same.
-/

namespace GatedModules.Registry

variable {r r' : Registry} {data before after : List Json} {value : Json}

/-! ## What is read -/

theorem ext_modules (h : r.modules = r'.modules) : r = r' := by
  cases r
  cases r'
  rw [Registry.mk.injEq]
  exact h

theorem add_eq_ok_iff {m : Module} : r.add m = .ok r' ↔ r'.modules = r.modules ++ [m] := by
  unfold add
  constructor
  · intro h
    split at h
    · cases h
    · cases h
      rfl
  · intro h
    have hnew : m.name ∉ r.names := by
      have hnodup := r'.nodup
      rw [h, List.map_append, List.nodup_append] at hnodup
      exact fun hmem => hnodup.2.2 _ hmem _ (List.mem_singleton.2 rfl) rfl
    rw [dif_neg hnew]
    exact congrArg Except.ok (ext_modules h.symm)

theorem addJsons_eq_ok_iff :
    r.addJsons data = .ok r' ↔
      ∃ ms, List.Forall₂ (fun value m => Module.ofJson value = .ok m) data ms ∧
        r'.modules = r.modules ++ ms := by
  induction data generalizing r with
  | nil =>
    simp only [addJsons, List.forall₂_nil_left_iff, exists_eq_left, List.append_nil,
      Except.ok.injEq]
    exact ⟨fun h => h ▸ rfl, fun h => ext_modules h.symm⟩
  | cons value data ih =>
    unfold addJsons
    constructor
    · intro h
      obtain ⟨m, hm, h⟩ := bind_eq_ok_iff.1 h
      obtain ⟨s, hs, h⟩ := bind_eq_ok_iff.1 h
      obtain ⟨ms, hms, hmodules⟩ := ih.1 h
      refine ⟨m :: ms, .cons (mapError_eq_ok_iff.1 hm) hms, ?_⟩
      rw [hmodules, add_eq_ok_iff.1 hs, List.append_assoc]
      rfl
    · rintro ⟨ms, hms, hmodules⟩
      cases hms with
      | @cons _ m _ ms hm hms =>
        rw [List.append_cons] at hmodules
        -- The modules up to this one have different names because all modules have.
        have hnodup := r'.nodup
        rw [hmodules, List.map_append] at hnodup
        have hadd : r.add m = .ok ⟨r.modules ++ [m], hnodup.of_append_left⟩ := add_eq_ok_iff.2 rfl
        refine bind_eq_ok_iff.2 ⟨m, mapError_eq_ok_iff.2 hm, bind_eq_ok_iff.2 ⟨_, hadd, ?_⟩⟩
        exact ih.2 ⟨ms, hms, hmodules⟩

theorem ofJsons_eq_ok_iff :
    ofJsons data = .ok r ↔
      List.Forall₂ (fun value m => Module.ofJson value = .ok m) data r.modules := by
  rw [ofJsons, addJsons_eq_ok_iff]
  constructor
  · rintro ⟨ms, hms, hmodules⟩
    rwa [hmodules]
  · intro h
    exact ⟨r.modules, h, rfl⟩

/-! ## The grammar -/

/-- The values that describe registries: each describes a module, and no two have one name. -/
structure Grammar (data : List Json) : Prop where
  modules : ∀ value ∈ data, Module.Grammar value
  names : (data.map (Json.member? "name")).Nodup

/-- What is wrong with some values first, and what is said of it. The values before the fault are in
order, and those after it do not matter. -/
inductive FirstFault (data : List Json) : ReadError → Text → Prop
  | malformed {before after : List Json} {value : Json} {e : Module.ReadError}
    (hdata : data = before ++ value :: after) (hbefore : Grammar before)
    (hvalue : Module.FirstFault value e) : FirstFault data (.malformed e) e.message
  | duplicate {before after : List Json} {value : Json} {name : Text}
    (hdata : data = before ++ value :: after) (hbefore : Grammar before)
    (hvalue : Module.Grammar value) (hname : value.member? "name" = some (.str name))
    (htaken : value.member? "name" ∈ before.map (Json.member? "name")) :
    FirstFault data (.duplicate name) ("Duplicate module name: " ++ name)

theorem FirstFault.message_eq {e : ReadError} {message : Text} (h : FirstFault data e message) :
    message = e.message := by
  cases h <;> rfl

theorem FirstFault.append {e : ReadError} {message : Text} (h : FirstFault data e message)
    (more : List Json) : FirstFault (data ++ more) e message := by
  cases h with
  | @malformed before after value e hdata hbefore hvalue =>
    have hmore : data ++ more = before ++ value :: (after ++ more) := by simp [hdata]
    exact .malformed hmore hbefore hvalue
  | @duplicate before after value name hdata hbefore hvalue hname htaken =>
    have hmore : data ++ more = before ++ value :: (after ++ more) := by simp [hdata]
    exact .duplicate hmore hbefore hvalue hname htaken

theorem member?_name_of_ofJson {m : Module} (h : Module.ofJson value = .ok m) :
    value.member? "name" = some (.str m.name) :=
  (Module.ofJson_eq_ok_iff_describes.1 h).2.name

theorem map_member?_name {ms : List Module}
    (h : List.Forall₂ (fun value m => Module.ofJson value = .ok m) data ms) :
    data.map (Json.member? "name") = (ms.map Module.name).map fun name => some (.str name) := by
  induction h with
  | nil => rfl
  | cons hm _ ih => rw [List.map_cons, List.map_cons, List.map_cons, ih, member?_name_of_ofJson hm]

theorem some_str_injective : Function.Injective fun name : Text => some (Json.str name) :=
  fun _ _ h => Json.str.inj (Option.some.inj h)

theorem exists_modules_of_grammar (h : ∀ value ∈ data, Module.Grammar value) :
    ∃ ms, List.Forall₂ (fun value m => Module.ofJson value = .ok m) data ms := by
  induction data with
  | nil => exact ⟨[], .nil⟩
  | cons value data ih =>
    obtain ⟨hvalue, hdata⟩ := List.forall_mem_cons.1 h
    obtain ⟨m, hm, -⟩ := Module.exists_ofJson_of_grammar hvalue
    obtain ⟨ms, hms⟩ := ih hdata
    exact ⟨m :: ms, .cons hm hms⟩

theorem exists_ofJsons_of_grammar (h : Grammar data) : ∃ r, ofJsons data = .ok r := by
  obtain ⟨ms, hms⟩ := exists_modules_of_grammar h.modules
  have hnames := h.names
  rw [map_member?_name hms] at hnames
  exact ⟨⟨ms, hnames.of_map _⟩, ofJsons_eq_ok_iff.2 hms⟩

/-! ## The first fault is reported -/

theorem addJsons_append (r : Registry) (before after : List Json) :
    r.addJsons (before ++ after) = (r.addJsons before >>= fun s => s.addJsons after) := by
  induction before generalizing r with
  | nil => rfl
  | cons value before ih =>
    simp only [List.cons_append, addJsons, ih, bind_assoc]

theorem ofJsons_of_firstFault {e : ReadError} {message : Text} (h : FirstFault data e message) :
    ofJsons data = .error e := by
  cases h with
  | malformed hdata hbefore hvalue =>
    obtain ⟨s, hs⟩ := exists_ofJsons_of_grammar hbefore
    rw [ofJsons] at hs
    rw [hdata, ofJsons, addJsons_append, hs]
    change s.addJsons _ = _
    rw [addJsons, Module.ofJson_of_firstFault hvalue]
    rfl
  | @duplicate before after value name hdata hbefore hvalue hname htaken =>
    obtain ⟨s, hs⟩ := exists_ofJsons_of_grammar hbefore
    obtain ⟨m, hm, -⟩ := Module.exists_ofJson_of_grammar hvalue
    have hmember := member?_name_of_ofJson hm
    obtain rfl : m.name = name := some_str_injective (hmember.symm.trans hname)
    -- The name is among those of the modules that have been read.
    have hmem : m.name ∈ s.names := by
      rw [map_member?_name (ofJsons_eq_ok_iff.1 hs), hmember] at htaken
      exact (List.mem_map_of_injective some_str_injective).1 htaken
    rw [ofJsons] at hs
    rw [hdata, ofJsons, addJsons_append, hs]
    change s.addJsons _ = _
    rw [addJsons, hm]
    change (s.add m >>= fun s' => s'.addJsons after) = _
    rw [add, dif_pos hmem]
    rfl

theorem grammar_concat (hbefore : Grammar before) (hvalue : Module.Grammar value)
    (hnew : value.member? "name" ∉ before.map (Json.member? "name")) :
    Grammar (before ++ [value]) where
  modules := by
    rw [List.forall_mem_append]
    exact ⟨hbefore.modules, by simpa using hvalue⟩
  names := by
    rw [List.map_append, List.map_singleton]
    exact List.nodup_append.2 ⟨hbefore.names, List.nodup_singleton _, fun a ha b hb => by
      rintro rfl
      exact hnew (List.mem_singleton.1 hb ▸ ha)⟩

theorem grammar_or_firstFault (data : List Json) :
    Grammar data ∨ ∃ e message, FirstFault data e message := by
  induction data using List.reverseRecOn with
  | nil => exact .inl ⟨by simp, by simp⟩
  | append_singleton before value ih =>
    rcases ih with hbefore | ⟨e, message, hfault⟩
    · rcases Module.grammar_or_firstFault value with hvalue | ⟨e, hvalue⟩
      · by_cases htaken : value.member? "name" ∈ before.map (Json.member? "name")
        · obtain ⟨name, hname, -⟩ := hvalue.name
          exact .inr ⟨_, _, .duplicate rfl hbefore hvalue hname htaken⟩
        · exact .inl (grammar_concat hbefore hvalue htaken)
      · exact .inr ⟨_, _, .malformed rfl hbefore hvalue⟩
    · exact .inr ⟨e, message, hfault.append [value]⟩

theorem ofJsons_settled (data : List Json) :
    Settled (ofJsons data) (Grammar data) fun e => ∃ message, FirstFault data e message where
  ok_of_good := exists_ofJsons_of_grammar
  error_of_fault _ h := ofJsons_of_firstFault h.choose_spec
  good_or_fault := grammar_or_firstFault data

theorem ofJsons_eq_ok_iff_describes :
    ofJsons data = .ok r ↔ Grammar data ∧ List.Forall₂ Module.Describes data r.modules := by
  have hread : ofJsons data = .ok r ↔ (∀ value ∈ data, Module.Grammar value) ∧
      List.Forall₂ Module.Describes data r.modules := by
    simp only [ofJsons_eq_ok_iff, Module.ofJson_eq_ok_iff_describes, List.forall₂_and_left]
  constructor
  · intro h
    exact ⟨(ofJsons_settled data).exists_ok_iff.1 ⟨r, h⟩, (hread.1 h).2⟩
  · rintro ⟨hgrammar, hdescribes⟩
    exact hread.2 ⟨hgrammar.modules, hdescribes⟩

theorem error_iff_firstFault {e : ReadError} {message : Text} :
    ofJsons data = .error e ∧ e.message = message ↔ FirstFault data e message := by
  constructor
  · rintro ⟨he, rfl⟩
    obtain ⟨message, hfault⟩ := (ofJsons_settled data).error_iff.1 he
    exact hfault.message_eq ▸ hfault
  · intro h
    exact ⟨ofJsons_of_firstFault h, h.message_eq.symm⟩

/-! ## Looking up names -/

/-- The ways to look a name up in a registry agree: a name that is declared has a module and a
place, which is where it stands among the names, and any other name has neither. -/
structure Agrees (r : Registry) (name : Text) : Prop where
  declared : r.declares name = true ↔ name ∈ r.names
  found : (∃ m, r.find? name = some m) ↔ name ∈ r.names
  got : (∃ m, r.get name = .ok m) ↔ name ∈ r.names
  placed : (∃ i, r.indexOf name = .ok i) ↔ name ∈ r.names
  same : ∀ m, r.get name = .ok m ↔ r.find? name = some m
  place : ∀ i, r.indexOf name = .ok i ↔ r.names[i]? = some name

theorem get_eq_ok_iff_find? {name : Text} {m : Module} :
    r.get name = .ok m ↔ r.find? name = some m := by
  rw [get_eq_ok_iff, find?_eq_some_iff]

theorem declares_iff_mem {name : Text} : r.declares name = true ↔ name ∈ r.names := by
  simp [declares]

theorem indexOf_eq_ok_iff {name : Text} {i : Nat} :
    r.indexOf name = .ok i ↔ r.names[i]? = some name := by
  constructor
  · intro h
    unfold indexOf index? at h
    split at h
    · next place hplace =>
      cases h
      obtain ⟨hlt, hget, -⟩ := List.idxOf?_eq_some_iff.1 hplace
      exact List.getElem?_eq_some_iff.2 ⟨hlt, hget⟩
    · cases h
  · intro h
    obtain ⟨hlt, hget⟩ := List.getElem?_eq_some_iff.1 h
    have hmem : name ∈ r.names := hget ▸ List.getElem_mem hlt
    rw [indexOf_of_declares (declares_iff_mem.2 hmem), position, ← hget]
    exact congrArg Except.ok (List.Nodup.idxOf_getElem r.nodup i hlt)

theorem agrees (r : Registry) (name : Text) : Agrees r name where
  declared := declares_iff_mem
  found := by rw [← declares_iff_find?, declares_iff_mem]
  got := by simp only [get_eq_ok_iff_find?, ← declares_iff_find?, declares_iff_mem]
  placed := by simp only [indexOf_eq_ok_iff, List.mem_iff_getElem?]
  same _ := get_eq_ok_iff_find?
  place _ := indexOf_eq_ok_iff

/-- The modules stand in the order of the names, each where its name does. -/
theorem modules_getElem?_eq_some_iff {i : Nat} {m : Module} :
    r.modules[i]? = some m ↔ ∃ name, r.names[i]? = some name ∧ r.get name = .ok m := by
  simp only [names, List.getElem?_map, Option.map_eq_some_iff, get_eq_ok_iff]
  constructor
  · intro h
    exact ⟨m.name, ⟨m, h, rfl⟩, List.mem_of_getElem? h, rfl⟩
  · rintro ⟨name, ⟨m', hm', rfl⟩, hm, hname⟩
    rwa [← eq_of_name_eq (List.mem_of_getElem? hm') hm hname.symm]

/-- Some values are read as a registry just where each describes a module and no two have one name,
and then the modules are those that they describe, in their order. Otherwise the first fault is
reported. In any registry the names are distinct, and looking them up in one way or another gives
the same. -/
theorem read_up_to_first_fault (data : List Json) :
    ((∃ r, ofJsons data = .ok r) ↔ Grammar data) ∧
    (∀ r, ofJsons data = .ok r ↔
      Grammar data ∧ List.Forall₂ Module.Describes data r.modules) ∧
    (¬ Grammar data ↔ ∃ e, ofJsons data = .error e) ∧
    (∀ e message, ofJsons data = .error e ∧ e.message = message ↔ FirstFault data e message) ∧
    ∀ r : Registry, r.names.Nodup ∧ r.names.length = r.size ∧ (∀ name, Agrees r name) ∧
      ∀ (i : Nat) m, r.modules[i]? = some m ↔
        ∃ name, r.names[i]? = some name ∧ r.get name = .ok m := by
  have hsettled := ofJsons_settled data
  refine ⟨hsettled.exists_ok_iff, fun _ => ofJsons_eq_ok_iff_describes, hsettled.not_good_iff,
    fun _ _ => error_iff_firstFault, fun r => ⟨r.nodup, List.length_map _, r.agrees, fun _ _ => ?_⟩⟩
  exact modules_getElem?_eq_some_iff

end GatedModules.Registry

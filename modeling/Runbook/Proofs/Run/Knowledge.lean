import Runbook.Command.Execute
import Runbook.Proofs.Run.DataPoints
import Runbook.Proofs.Run.Influence
import Runbook.Proofs.Storage.Shelf
import Runbook.Proofs.Token.Substitution
import Runbook.Storage.Records

/-!
# The token of a knowledge entry

Whoever adds an entry to the knowledge base is told a token for its content (`Command.addKnowledge_tells`). Ids of
entries are any texts, but tokens have a grammar.

* `Knowledge.isNamed_token_iff` — what is told is a token if the id has letters and digits of ASCII, `_` and `-` alone.
* `Knowledge.resolveText_token` — then it stands for the content of the entry, whatever the other entries are.
* `Knowledge.resolveText_token_of_not_isNamed` — else it comes out as it stands, unless the id has a `$` or a closing
  brace in it.
* `Knowledge.exists_resolveText_token_ne` — with them or without, there are entries among which it does not stand for
  the content.
* `Run.Runner.resolves_entry_token_iff` — so at the start of a run the token of an id can be relied on exactly if it is
  one.
-/

namespace Runbook

namespace Knowledge

variable {now : Int} {k : Knowledge} {entries : List Knowledge} {id : String}

/-! ## The token -/

/-- The token that is told for the entry with an id. -/
def token (id : String) : Token :=
  ⟨s!"kb_{id}", some "text"⟩

theorem dataPointId_token (id : String) : (token id).dataPointId = "kb_" ++ id := rfl

theorem id_toDataPoint (now : Int) (k : Knowledge) : (k.toDataPoint now).id = "kb_" ++ k.id := rfl

theorem isName_text : Token.IsName "text" :=
  Token.isIdent_iff.1 (by decide)

theorem isNamed_token (h : Token.IsName ("kb_" ++ id)) : (token id).IsNamed :=
  ⟨h, fun _ hf => Option.some.inj hf ▸ isName_text⟩

/-- What is told is a token if the id is made of the characters of identifiers. -/
theorem isNamed_token_iff :
    (token id).IsNamed ↔ ∀ c ∈ id.toList, c.isAlphanum = true ∨ c = '_' ∨ c = '-' := by
  have hkb : Token.IsName "kb_" := Token.isIdent_iff.1 (by decide)
  have hname : Token.IsName ("kb_" ++ id) ↔ ∀ c ∈ id.toList, c.isAlphanum = true ∨ c = '_' ∨ c = '-' := by
    rw [Token.IsName, and_iff_right (by simp), String.toList_append, List.forall_mem_append, and_iff_right hkb.2]
  rw [← hname]
  exact ⟨fun h => h.1, isNamed_token⟩

theorem chars_token (id : String) :
    (token id).chars = '$' :: '{' :: (("kb_" ++ id).toList ++ '.' :: ("text".toList ++ ['}'])) := by
  rw [Token.chars_eq]
  exact congrArg ('$' :: '{' :: ·) (Token.body_some (Token.isIdent_iff.2 isName_text))

/-- No token is written as what is told for an id, unless that is a token. -/
theorem isNamed_of_chars_eq {t : Token} (ht : t.isWellFormed = true) (h : t.chars = (token id).chars) :
    (token id).IsNamed := by
  have hdot {s : String} (hs : Token.IsName s) : '.' ∉ s.toList ++ ['}'] := by
    intro hmem
    rcases List.mem_append.1 hmem with hmem | hmem
    · exact absurd (hs.2 _ hmem) (by decide)
    · revert hmem
      decide
  have hspells : Token.Spells t.chars t := Token.spells_iff.2 ⟨ht, rfl⟩
  rw [h, chars_token] at hspells
  generalize hid : ("kb_" ++ id).toList ++ '.' :: ("text".toList ++ ['}']) = rest at hspells
  cases hspells with
  | whole name =>
    refine absurd ?_ (hdot name)
    rw [← hid]
    exact List.mem_append_right _ List.mem_cons_self
  | part name fieldName =>
    obtain ⟨hsame, -⟩ := (List.append_cons_inj_of_notMem (fun hmem => hdot name (List.mem_append_left _ hmem))
      (hdot fieldName)).1 hid.symm
    exact isNamed_token (String.toList_inj.1 hsame ▸ name)

/-- A text that opens and closes once has no other part that opens and closes. -/
theorem eq_of_braced_infix {inner whole : List Char} (dollar : '$' ∉ whole) (brace : '}' ∉ whole)
    (h : '$' :: '{' :: (inner ++ ['}']) <:+: '$' :: '{' :: (whole ++ ['}'])) : inner = whole := by
  obtain ⟨before, after, h⟩ := h
  have hclose : ('$' :: '{' :: whole) ++ '}' :: [] = (before ++ '$' :: '{' :: inner) ++ '}' :: after := by
    simpa using h.symm
  have hopen : [] ++ '$' :: ('{' :: whole) = before ++ '$' :: ('{' :: inner) :=
    ((List.append_cons_inj_of_notMem (by simpa using brace) List.not_mem_nil).1 hclose).1
  obtain ⟨-, -, hinner⟩ := (List.append_cons_inj_of_notMem List.not_mem_nil (by simpa using dollar)).1 hopen
  exact (List.cons.inj hinner).2.symm

/-- In what is told for an id there is no token if it is none, unless the id has a `$` or a closing brace. -/
theorem tokens_write_token (dollar : '$' ∉ id.toList) (brace : '}' ∉ id.toList) (h : ¬ (token id).IsNamed) :
    Template.tokens (token id).write = [] := by
  refine List.eq_nil_iff_forall_not_mem.2 fun t ht => h ?_
  obtain ⟨hwf, hinfix⟩ := Template.mem_tokens_iff.1 ht
  obtain ⟨inner, hinner, -⟩ := Token.body_eq_append hwf
  refine isNamed_of_chars_eq hwf ?_
  have hchars : (token id).chars = '$' :: '{' :: ("kb_".toList ++ id.toList ++ ".text".toList ++ ['}']) := by
    rw [chars_token, String.toList_append]
    simp
  rw [Token.write, String.toList_ofList, hchars, Token.chars_eq, hinner] at hinfix
  rw [hchars, Token.chars_eq, hinner, eq_of_braced_infix (by simpa using dollar) (by simpa using brace) hinfix]

/-! ## What the token stands for -/

/-- The data points of entries. -/
def store (now : Int) (entries : List Knowledge) : Store :=
  Store.empty.addAll (entries.map (toDataPoint now))

theorem mem_store (distinct : (entries.map Knowledge.id).Nodup) (h : k ∈ entries) :
    k.toDataPoint now ∈ (store now entries).points := by
  refine Store.mem_addAll_of_nodup ?_ (List.mem_map_of_mem h) fun q hq => nomatch hq
  have hids : (entries.map (toDataPoint now)).map DataPoint.id = (entries.map Knowledge.id).map ("kb_" ++ ·) := by
    rw [List.map_map, List.map_map]
    rfl
  rw [hids]
  exact distinct.map fun a b hab => by simpa using hab

theorem exists_of_mem_store {p : DataPoint} (h : p ∈ (store now entries).points) :
    ∃ k ∈ entries, k.toDataPoint now = p := by
  rcases Store.of_mem_addAll h with h | h
  · cases h
  · exact List.mem_map.1 h

/-- The id of an entry stands for it. -/
theorem lookup_store (now : Int) (distinct : (entries.map Knowledge.id).Nodup) (h : k ∈ entries) :
    (store now entries).lookup ("kb_" ++ k.id) = some (k.toDataPoint now) := by
  rw [← id_toDataPoint now]
  exact Store.lookup_of_mem (mem_store distinct h)

/-- An id that is not one of an entry stands for none. -/
theorem lookup_store_eq_none (h : ¬ "kb_".toList <+: id.toList) : (store now entries).lookup id = none := by
  refine ((store now entries).lookup_stands id).2.2 fun p hp rank hstands => h ?_
  obtain ⟨k, -, rfl⟩ := exists_of_mem_store hp
  have hkb : "kb_".toList <+: (k.toDataPoint now).id.toList := by
    rw [id_toDataPoint, String.toList_append]
    exact List.prefix_append _ _
  have hstart {base : String} {stamp : List Char} (hstamped : Stamped id base stamp)
      (hbase : "kb_".toList <+: base.toList) : "kb_".toList <+: id.toList := by
    rw [hstamped.spelled]
    exact hbase.trans (List.prefix_append _ _)
  have hentry {n : Nat} {entry : List Char} (hentry : EntryId id.toList n entry) : "kb_".toList <+: id.toList := by
    generalize id.toList = cs at hentry
    cases hentry with
    | whole hwhole => exact hwhole
    | strip _ => exact List.prefix_append _ _
  cases hstands with
  | same hid => exact hid ▸ hkb
  | output hstamped _ => exact hstart hstamped hkb
  | base hstamped _ => exact hstart hstamped hkb
  | @provider stamp hstamped _ =>
    -- the source of all entries is `kb`, and with an underscore after it that begins as their ids do
    have hsource : (k.toDataPoint now).source.toList ++ '_' :: stamp = "kb_".toList ++ stamp := by
      show "kb".toList ++ '_' :: stamp = _
      simp
    rw [hstamped.spelled, hsource]
    exact List.prefix_append _ _
  | beginning hstamped _ hbase =>
    refine hstart hstamped ?_
    rw [hbase]
    exact hkb.trans (List.prefix_append _ _)
  | entry hid => exact hentry hid
  | extension hid _ => exact hentry hid

/-- The token of an entry stands for its content, whatever the other entries are. -/
theorem resolveText_token (distinct : (entries.map Knowledge.id).Nodup) (h : k ∈ entries)
    (named : (token k.id).IsNamed) :
    ((store now entries).resolveText (token k.id).write).outcome.value = .ok k.content := by
  have hstands : (store now entries).resolveToken (token k.id) = .ok k.content := by
    rw [Store.resolveToken, dataPointId_token, lookup_store now distinct h]
    rfl
  have hsingle : ((store now entries).resolveText ("" ++ (token k.id).write ++ "")).outcome.value =
      .ok ("" ++ k.content ++ "") :=
    Store.resolveText_single List.not_mem_nil List.not_mem_nil (Token.isWellFormed_iff.2 named) hstands
  simpa using hsingle

/-- What is told for an id comes out as it stands if it is no token, unless the id has a `$` or a closing brace. -/
theorem resolveText_token_of_not_isNamed (s : Store) (dollar : '$' ∉ id.toList) (brace : '}' ∉ id.toList)
    (h : ¬ (token id).IsNamed) : s.resolveText (token id).write = pure (token id).write :=
  Store.resolveText_of_tokens_eq_nil (tokens_write_token dollar brace h)

/-! ## Ids that are no identifiers

What is told for such an id can have other tokens in it. If all the entries that those refer to are there and are
empty, they do not go by the content of the entry with the id. -/

/-- An entry with an id and a content. -/
def plain (id content : String) : Knowledge :=
  { id := id, name := "", content := content, createdAt := 0, updatedAt := 0 }

/-- The ids of entries that a text refers to. -/
def referencedIn (text : String) : List String :=
  ((Template.referencedIds text).filterMap fun id =>
    (Text.stripPrefix? "kb_".toList id.toList).map String.ofList).eraseDups

theorem toList_eq_append_iff {ref start : String} {rest : List Char} :
    ref.toList = start.toList ++ rest ↔ ref = start ++ String.ofList rest := by
  rw [← String.toList_inj, String.toList_append, String.toList_ofList]

theorem mem_referencedIn {text : String} : id ∈ referencedIn text ↔ "kb_" ++ id ∈ Template.referencedIds text := by
  simp only [referencedIn, List.mem_eraseDups, List.mem_filterMap, Option.map_eq_some_iff,
    Text.stripPrefix?_eq_some_iff, toList_eq_append_iff]
  constructor
  · rintro ⟨_, hmem, rest, rfl, rfl⟩
    exact hmem
  · intro h
    exact ⟨_, h, id.toList, by rw [String.ofList_toList], String.ofList_toList⟩

/-- The entry with an id and a content among empty ones for the ids in what is told for it. -/
def amongEmpty (id content : String) : List Knowledge :=
  plain id content :: (referencedIn (token id).write).map fun other => plain other ""

/-- The ids that a text refers to are identifiers. -/
theorem isName_of_mem_referencedIds {text ref : String} (h : ref ∈ Template.referencedIds text) :
    Token.IsName ref := by
  rw [Template.referencedIds_eq] at h
  obtain ⟨t, ht, rfl⟩ := List.mem_map.1 h
  exact (Token.isWellFormed_iff.1 (Template.isWellFormed_of_mem ht)).1

theorem nodup_amongEmpty (content : String) (h : ¬ (token id).IsNamed) :
    ((amongEmpty id content).map Knowledge.id).Nodup := by
  have hids : ((referencedIn (token id).write).map fun other => plain other "").map Knowledge.id =
      referencedIn (token id).write := by
    rw [List.map_map]
    exact List.map_id _
  rw [amongEmpty, List.map_cons, hids, List.nodup_cons]
  exact ⟨fun hmem => h (isNamed_token (isName_of_mem_referencedIds (mem_referencedIn.1 hmem))), nodup_eraseDups _⟩

/-- Among empty entries the tokens in what is told for an id do not go by the content, if it is no token itself. -/
theorem agreeOn_amongEmpty (now : Int) (content content' : String) (h : ¬ (token id).IsNamed) :
    Store.AgreeOn (Template.referencedIds (token id).write)
      (store now (amongEmpty id content)) (store now (amongEmpty id content')) := by
  intro ref href
  by_cases hkb : "kb_".toList <+: ref.toList
  · obtain ⟨rest, hrest⟩ := hkb
    obtain rfl := toList_eq_append_iff.1 hrest.symm
    have hfound (content : String) := lookup_store now (nodup_amongEmpty content h)
      (List.mem_cons_of_mem _ (List.mem_map_of_mem (mem_referencedIn.2 href)))
    exact congrArg _ ((hfound content).trans (hfound content').symm)
  · rw [lookup_store_eq_none hkb, lookup_store_eq_none hkb]

/-- If what is told for an id is no token, there are entries among which it does not stand for the content of the one
with the id. -/
theorem exists_resolveText_token_ne (now : Int) (h : ¬ (token id).IsNamed) :
    ∃ content, ((store now (amongEmpty id content)).resolveText (token id).write).outcome.value ≠ .ok content := by
  by_contra hall
  simp only [not_exists, not_not] at hall
  have hsame := Store.resolveText_congr (agreeOn_amongEmpty now "" "x" h)
  rw [hall "", hall "x"] at hsame
  exact absurd (Except.ok.inj hsame) (by decide)

end Knowledge

/-! ## What is told -/

section

variable {now : Int} {w w' : Workplace}

/-- An entry that is put in the place of another has its own id. -/
theorem Knowledge.id_place (entry : Knowledge) (entries : List Knowledge) :
    (shelf.place entry entries).1.id = entry.id := by
  induction entries with
  | nil => rfl
  | cons old rest ih =>
    rw [Shelf.place]
    split
    · rfl
    · exact ih

theorem Knowledge.id_of_save {path : FilePath} {entry saved : Knowledge}
    (h : w.carryOut (save (Machine.onDisk now) path entry) = (.ok saved, w')) : saved.id = entry.id := by
  obtain ⟨kept, _, hput, hsaved⟩ := Workplace.of_carryOut_bind h
  obtain ⟨entries, _, -, hstore⟩ := Workplace.of_carryOut_bind hput
  obtain ⟨_, _, -, hkept⟩ := Workplace.of_carryOut_bind hstore
  obtain ⟨_, _, -, hreturn⟩ := Workplace.of_carryOut_bind hsaved
  obtain rfl : kept = saved := Except.ok.inj (Prod.mk.inj hreturn).1
  obtain rfl : (shelf.place _ entries).1 = kept := Except.ok.inj (Prod.mk.inj hkept).1
  exact id_place _ entries

theorem Command.of_carryOut_stored {α : Type} {x : ExceptT StorageError (StateM Workplace) α} {a : α}
    (h : w.carryOut (stored x) = (.ok a, w')) : w.carryOut x = (.ok a, w') := by
  have hmap : w.carryOut (stored x) =
      ((w.carryOut x).1.mapError fun error => .breakdown (.storage error), (w.carryOut x).2) := rfl
  rw [hmap] at h
  rcases hrun : w.carryOut x with ⟨_ | b, w''⟩
  · rw [hrun] at h
    cases h
  · rw [hrun] at h
    exact congrArg₂ Prod.mk (congrArg _ (Except.ok.inj (Prod.mk.inj h).1)) (Prod.mk.inj h).2

/-- The last line for a new entry tells the token of its id, which is the one that was asked for or is made of the
time. -/
theorem Command.addKnowledge_tells {settings : Settings} {entry : NewEntry} {code : ExitCode}
    (h : w.carryOut (addKnowledge (Machine.onDisk now) settings entry) = (.ok code, w')) :
    let id := (entry.id.filter fun id => !id.isEmpty).getD s!"entry_{now}"
    w'.outputs.getLast? =
      some (.line s!"Saved knowledge entry {id} (token: {(Knowledge.token id).write})") := by
  intro id
  obtain ⟨content, _, -, hsave⟩ := Workplace.of_carryOut_bind h
  obtain ⟨saved, before, hsaved, htell⟩ := Workplace.of_carryOut_bind hsave
  have hid : saved.id = id := Knowledge.id_of_save (of_carryOut_stored hsaved)
  obtain ⟨_, told, hsay, hreturn⟩ := Workplace.of_carryOut_bind htell
  have hlast : told.outputs = before.outputs ++
      [.line s!"Saved knowledge entry {saved.id} (token: {(Knowledge.token saved.id).write})"] := by
    rw [← (Prod.mk.inj hsay).2]
    rfl
  obtain rfl : told = w' := (Prod.mk.inj hreturn).2
  rw [hlast, hid, List.getLast?_concat]

end

namespace Run

variable {r : Runner} {host : Host} {entries : List Knowledge}

/-! ## At the start of a run -/

/-- Is a knowledge base all that a run starts with? -/
structure Knows (r : Runner) (host : Host) (entries : List Knowledge) : Prop where
  context : Sequential.contextPoints r.now (host [] .context) = []
  knowledge : host [.context] .knowledge = .ok entries

/-- The host with a knowledge base and no context. -/
def Host.knowing (entries : List Knowledge) : Host :=
  steady fun
    | .context => .ok (.items [])
    | .knowledge => .ok entries
    | .sleep _ => ()
    | .dispatch _ _ _ _ => .ok (.ready { success := true })

theorem knows_knowing (r : Runner) (entries : List Knowledge) : Knows r (Host.knowing entries) entries :=
  ⟨rfl, rfl⟩

theorem Knows.initialStore_eq (h : Knows r host entries) (registry : Registry) :
    (r.initialStore.perform host registry []).value = Knowledge.store r.now entries := by
  rw [Runner.perform_initialStore]
  show Store.empty.addAll (Sequential.gathered r host) = _
  rw [Sequential.gathered, h.context, h.knowledge]
  rfl

/-- **Which tokens of knowledge entries can be relied on.** That in every run that starts with a knowledge base alone,
in which no two entries have one id, what is told for an id resolves to the content of the entry with the id, is so
exactly if the id has letters and digits of ASCII, `_` and `-` alone. If it has other characters, and among them no `$`
and no closing brace, what is told comes out as it stands, whatever data points there are. -/
theorem Runner.resolves_entry_token_iff (r : Runner) (id : String) :
    ((∀ (host : Host) (registry : Registry) (entries : List Knowledge), Knows r host entries →
        (entries.map Knowledge.id).Nodup → ∀ k ∈ entries, k.id = id →
          ((r.initialStore.perform host registry []).value.resolveText (Knowledge.token k.id).write).outcome.value =
            .ok k.content) ↔
      ∀ c ∈ id.toList, c.isAlphanum = true ∨ c = '_' ∨ c = '-') ∧
    ((∃ c ∈ id.toList, ¬ (c.isAlphanum = true ∨ c = '_' ∨ c = '-')) → '$' ∉ id.toList → '}' ∉ id.toList →
      ∀ s : Store, s.resolveText (Knowledge.token id).write = pure (Knowledge.token id).write) := by
  rw [← Knowledge.isNamed_token_iff]
  refine ⟨⟨fun reliable => ?_, fun named host registry entries knows distinct k hk hid => ?_⟩, ?_⟩
  · by_contra h
    obtain ⟨content, hne⟩ := Knowledge.exists_resolveText_token_ne r.now h
    have knows := knows_knowing r (Knowledge.amongEmpty id content)
    have hresolved := reliable _ Registry.empty _ knows (Knowledge.nodup_amongEmpty content h) _ List.mem_cons_self rfl
    rw [knows.initialStore_eq] at hresolved
    exact hne hresolved
  · rw [knows.initialStore_eq registry]
    exact Knowledge.resolveText_token distinct hk (hid ▸ named)
  · rintro ⟨c, hc, hother⟩ dollar brace s
    exact Knowledge.resolveText_token_of_not_isNamed s dollar brace
      fun named => hother (Knowledge.isNamed_token_iff.1 named c hc)

/-- Two entries, of which the id of one goes on after that of the other. -/
theorem Runner.resolves_entry_token_style :
    let style : Knowledge := { id := "style", name := "Style", content := "Be brief.", createdAt := 1, updatedAt := 1 }
    let more : Knowledge := { style with id := "style_2", content := "" }
    let host := Host.knowing [more, style]
    let r : Runner := { now := 0 }
    let start := (r.initialStore.perform host Registry.empty []).value
    Knows r host [more, style] ∧ ([more, style].map Knowledge.id).Nodup ∧ style ∈ [more, style] ∧
      (Knowledge.token style.id).write = "${kb_style.text}" ∧
      (start.resolveText (Knowledge.token style.id).write).outcome.value = .ok style.content := by
  intro style more host r start
  have knows : Knows r host [more, style] := knows_knowing r _
  have distinct : ([more, style].map Knowledge.id).Nodup := by decide
  have hmem : style ∈ [more, style] := by simp
  have hname : Token.IsName style.id := Token.isIdent_iff.1 (by decide)
  obtain ⟨reliable, -⟩ := resolves_entry_token_iff r style.id
  exact ⟨knows, distinct, hmem, by decide, reliable.2 hname.2 host Registry.empty _ knows distinct style hmem rfl⟩

/-- What is told for an id with a blank in it comes out as it stands, though the entry is there. -/
theorem Runner.misses_entry_token :
    let notes : Knowledge :=
      { id := "my notes", name := "Notes", content := "Be brief.", createdAt := 1, updatedAt := 1 }
    let host := Host.knowing [notes]
    let r : Runner := { now := 0 }
    let start := (r.initialStore.perform host Registry.empty []).value
    Knows r host [notes] ∧ ([notes].map Knowledge.id).Nodup ∧
      (Knowledge.token notes.id).write = "${kb_my notes.text}" ∧
      (start.resolveText (Knowledge.token notes.id).write).outcome.value = .ok "${kb_my notes.text}" ∧
      "${kb_my notes.text}" ≠ notes.content := by
  intro notes host r start
  have htokens : Template.tokens (Knowledge.token notes.id).write = [] := by decide
  refine ⟨knows_knowing r _, by decide, by decide, ?_, by decide⟩
  rw [Store.resolveText_of_tokens_eq_nil htokens]
  decide

end Run

end Runbook

import FilteringProxy.Certificate.Store
import Mathlib.Data.List.Induction
import Mathlib.Data.List.Infix
import Mathlib.Logic.Function.Basic

/-! # Certificates and keys that belong together

The two files of an authority are written one after the other. A call that writes the certificate
and then fails to write the key leaves an older key in its place, if there is one, and from then on
an authority is loaded that was never made. Nothing else parts a certificate from its key: neither a
file that could not be deleted, nor a certificate that could not be written, nor a key that could
not be written where there was none.
-/

namespace FilteringProxy

/-- A call on a store, and which file operations fail during the call. -/
inductive StoreCall where
  | init (now : Nat) (faults : Faults)
  | generate (now : Nat) (faults : Faults)
  | load
  | remove (faults : Faults)
  /-- Open another store on the same directory. -/
  | reopen

namespace StoreCall

def faults : StoreCall → Faults
  | init _ faults | generate _ faults | remove faults => faults
  | load | reopen => {}

/-- The store after a call, and the authority that the call gives out. -/
def perform (s : CertificateStore) : StoreCall → CertificateStore × Option Root
  | init now faults => ((s.init now faults).1, (s.init now faults).2.toOption)
  | generate now faults => ((s.generate now faults).1, none)
  | load => (s, s.load.toOption)
  | remove faults => ((s.remove faults).1, none)
  | reopen => (s.reopen, none)

/-- The authority that a call makes. Its files need not get written. -/
def makes? (s : CertificateStore) (call : StoreCall) : Option Root :=
  if s.disk.place = .occupied then none
  else
    match call with
    | init now _ => if s.exists? then none else some (Root.generate s.generated now)
    | generate now _ => some (Root.generate s.generated now)
    | load | remove _ | reopen => none

/-- The call goes on to delete the files. -/
def clears (s : CertificateStore) : StoreCall → Bool
  | remove _ => s.disk.place ≠ .occupied
  | init _ _ | generate _ _ | load | reopen => false

/-- The call writes the certificate of a new authority beside an older key, and fails to write the
key. -/
def PartsPair (s : CertificateStore) (call : StoreCall) : Prop :=
  (call.makes? s).isSome ∧ call.faults.certificate = false ∧ call.faults.key = true ∧
    (s.disk.entry? .key).isSome

variable (s : CertificateStore)

@[simp]
theorem makes?_load : load.makes? s = none := ite_self _

@[simp]
theorem makes?_remove (faults : Faults) : (remove faults).makes? s = none := ite_self _

@[simp]
theorem makes?_reopen : reopen.makes? s = none := ite_self _

end StoreCall

theorem Disk.entry?_withEntry (d : Disk) (name other : FileName) (e : Option DirectoryEntry) :
    Disk.entry? (d.withEntry name e) other = if other = name then e else d.entry? other := by
  cases name <;> cases other <;> rfl

namespace FileName

/-- What the file of this name holds of an authority. -/
def content (root : Root) : FileName → FileContent
  | certificate => .certificate root.certificate
  | key => .key root.key

def mode : FileName → Nat
  | certificate => Disk.publicMode
  | key => Disk.privateMode

end FileName

namespace CertificateStore

/-- The store of a directory without files, after a row of calls. -/
def play (place : Place) (calls : List StoreCall) : CertificateStore :=
  calls.foldl (fun s call => (call.perform s).1) { disk := { place } }

theorem play_concat (place : Place) (calls : List StoreCall) (call : StoreCall) :
    play place (calls ++ [call]) = (call.perform (play place calls)).1 := by
  simp only [play, List.foldl_append, List.foldl_cons, List.foldl_nil]

/-- Certificate and key are those that one call of the row made. -/
def MadeIn (place : Place) (calls : List StoreCall) (root : Root) : Prop :=
  ∃ front call, front ++ [call] <+: calls ∧ call.makes? (play place front) = some root

/-! ## What the files hold -/

/-- The authority that each of the two files comes from. -/
abbrev Holding := FileName → Option Root

/-- What the files hold when a new authority has been written, as far as that succeeds. -/
def Holding.renew (h : Holding) (made : Root) (faults : Faults) : Holding :=
  if faults.hits .certificate then h
  else if faults.hits .key then Function.update h .certificate (some made)
  else fun _ => some made

/-- What the files hold when both have been deleted, as far as that succeeds. -/
def Holding.clear (h : Holding) (faults : Faults) : Holding :=
  if (h .certificate).isSome && faults.hits .certificate then h
  else if (h .key).isSome && faults.hits .key then Function.update h .certificate none
  else fun _ => none

/-- What the files hold after a call. -/
def Holding.after (h : Holding) (s : CertificateStore) (call : StoreCall) : Holding :=
  match call.makes? s with
  | some made => h.renew made call.faults
  | none => if call.clears s then h.clear call.faults else h

/-- The files of the store come from these authorities. -/
def Stocks (s : CertificateStore) (h : Holding) : Prop :=
  ∀ name, s.disk.entry? name = (h name).map fun root => .file (name.content root) name.mode

def setEntry (s : CertificateStore) (name : FileName) (e : Option DirectoryEntry) :
    CertificateStore :=
  { s with disk := s.disk.withEntry name e }

variable {s : CertificateStore} {h : Holding}

theorem Stocks.set (stocks : Stocks s h) (name : FileName) (held : Option Root) :
    Stocks (s.setEntry name (held.map fun root => .file (name.content root) name.mode))
      (Function.update h name held) := by
  intro other
  rw [setEntry, Disk.entry?_withEntry]
  by_cases same : other = name
  · subst same
    simp
  · simp [same, stocks other]

theorem Stocks.write (stocks : Stocks s h) (directory : s.disk.place = .directory)
    (faults : Faults) (name : FileName) (root : Root) :
    (∃ e, faults.hits name = true ∧ s.write faults name (name.content root) name.mode = .error e) ∨
      faults.hits name = false ∧ s.write faults name (name.content root) name.mode =
        .ok (s.setEntry name (some (.file (name.content root) name.mode))) := by
  have written : s.disk.write? name (name.content root) name.mode =
      some (s.disk.withEntry name (some (.file (name.content root) name.mode))) := by
    have entry := stocks name
    cases held : h name <;> rw [held] at entry <;> simp [Disk.write?, directory, entry]
  rw [CertificateStore.write, written]
  cases hit : faults.hits name with
  | true => exact Or.inl ⟨_, rfl, rfl⟩
  | false => exact Or.inr ⟨rfl, rfl⟩

theorem withEntry_self (d : Disk) (name : FileName) : d.withEntry name (d.entry? name) = d := by
  cases name <;> rfl

theorem Stocks.delete (stocks : Stocks s h) (room : s.disk.place ≠ .occupied) (faults : Faults)
    (name : FileName) :
    (∃ e, ((h name).isSome && faults.hits name) = true ∧ s.delete faults name = .error e) ∨
      ((h name).isSome && faults.hits name) = false ∧
        s.delete faults name = .ok (s.setEntry name none) := by
  have entry := stocks name
  rw [CertificateStore.delete, if_neg room]
  cases held : h name with
  | none =>
      rw [held, Option.map_none] at entry
      have unchanged := withEntry_self s.disk name
      rw [entry] at unchanged
      simp only [entry, setEntry, unchanged]
      exact Or.inr ⟨rfl, trivial⟩
  | some root =>
      rw [held, Option.map_some] at entry
      simp only [entry, Disk.delete?]
      cases hit : faults.hits name with
      | true => exact Or.inl ⟨_, rfl, rfl⟩
      | false => exact Or.inr ⟨rfl, rfl⟩

theorem Stocks.load_eq_ok (stocks : Stocks s h) {root : Root} :
    s.load = .ok root ↔
      ∃ newer older, h .certificate = some newer ∧ h .key = some older ∧
        root = ⟨newer.certificate, older.key⟩ := by
  cases held : h .certificate <;> cases held' : h .key <;>
    simp [load, Disk.read?, stocks .certificate, stocks .key, held, held', FileName.content,
      FileContent.key?, eq_comm]

theorem Stocks.writeFiles (stocks : Stocks s h) (directory : s.disk.place = .directory)
    (faults : Faults) (root : Root) :
    Stocks (s.writeFiles faults root).1 (h.renew root faults) ∧
      (s.writeFiles faults root).1.generated = s.generated ∧
      ((s.writeFiles faults root).2 = .ok () → faults.key = false) := by
  have half := stocks.set .certificate (some root)
  rw [CertificateStore.writeFiles, Holding.renew]
  rcases stocks.write directory faults .certificate root with ⟨e, failed, result⟩ | ⟨fine, result⟩
  · simp only [FileName.content, FileName.mode] at result
    simp only [result, failed, if_true]
    exact ⟨stocks, trivial, nofun⟩
  · simp only [FileName.content, FileName.mode] at result
    simp only [result, fine]
    rcases half.write directory faults .key root with ⟨e, failed, result⟩ | ⟨fine, result⟩
    · simp only [FileName.content, FileName.mode, Option.map_some] at result
      simp only [result, failed, if_true]
      exact ⟨half, rfl, nofun⟩
    · simp only [FileName.content, FileName.mode, Option.map_some] at result
      simp only [result, fine]
      refine ⟨?_, rfl, fun _ => fine⟩
      have both := half.set .key (some root)
      intro name
      cases name <;> exact both _

theorem Stocks.deleteFiles (stocks : Stocks s h) (room : s.disk.place ≠ .occupied)
    (faults : Faults) :
    Stocks (s.deleteFiles faults).1 (h.clear faults) ∧
      (s.deleteFiles faults).1.generated = s.generated := by
  have half := stocks.set .certificate none
  rw [CertificateStore.deleteFiles, Holding.clear]
  rcases stocks.delete room faults .certificate with ⟨e, failed, result⟩ | ⟨fine, result⟩
  · simp only [result, failed, if_true]
    exact ⟨stocks, trivial⟩
  · simp only [result, fine]
    have other : Function.update h .certificate none .key = h .key := rfl
    rcases half.delete room faults .key with ⟨e, failed, result⟩ | ⟨fine, result⟩
    · rw [other] at failed
      simp only [Option.map_none] at result
      simp only [result, failed, if_true]
      exact ⟨half, rfl⟩
    · rw [other] at fine
      simp only [Option.map_none] at result
      simp only [result, fine]
      refine ⟨?_, rfl⟩
      have both := half.set .key none
      intro name
      cases name <;> exact both _

/-! ## One call -/

theorem generate_of_occupied (occupied : s.disk.place = .occupied) (now : Nat) (faults : Faults) :
    s.generate now faults = (s, .error (.read "not a directory")) := by
  rw [generate, Disk.makePlace?, occupied]

theorem Stocks.generate (stocks : Stocks s h) (now : Nat) (faults : Faults) :
    Stocks (s.generate now faults).1 (h.after s (.generate now faults)) ∧
      (s.generate now faults).1.generated =
        s.generated + ((StoreCall.generate now faults).makes? s).toList.length ∧
      ((s.generate now faults).2 = .ok () → faults.key = false) := by
  by_cases room : s.disk.place = .occupied
  · have idle : (StoreCall.generate now faults).makes? s = none := if_pos room
    rw [generate_of_occupied room, Holding.after, idle]
    exact ⟨stocks, rfl, nofun⟩
  · have made : (StoreCall.generate now faults).makes? s = some (Root.generate s.generated now) :=
      if_neg room
    have opened : s.disk.makePlace? = some { s.disk with place := .directory } := by
      cases place : s.disk.place with
      | occupied => exact absurd place room
      | missing | directory => rw [Disk.makePlace?, place]
    have stocks' : Stocks { s with
        disk := { s.disk with place := .directory }, generated := s.generated + 1 } h := by
      intro name
      cases name with
      | certificate => exact stocks .certificate
      | key => exact stocks .key
    rw [CertificateStore.generate, opened, Holding.after, made]
    exact stocks'.writeFiles rfl faults _

/-- What a call does to a store whose files hold `h`. -/
structure Stocks.After (h : Holding) (s : CertificateStore) (call : StoreCall) : Prop where
  stocks : Stocks (call.perform s).1 (h.after s call)
  generated : (call.perform s).1.generated = s.generated + (call.makes? s).toList.length
  given : ∀ root, (call.perform s).2 = some root →
    (call.perform s).1.load = .ok root ∧ ¬ call.PartsPair s

theorem toOption_eq_some {α ε : Type} {x : Except ε α} {a : α} :
    x.toOption = some a ↔ x = .ok a := by
  cases x <;> simp [Except.toOption]

theorem Stocks.after_generate (stocks : Stocks s h) (now : Nat) (faults : Faults) :
    After h s (.generate now faults) where
  stocks := (stocks.generate now faults).1
  generated := (stocks.generate now faults).2.1
  given := by
    intro root given
    rw [StoreCall.perform] at given
    contradiction

theorem Stocks.after_remove (stocks : Stocks s h) (faults : Faults) :
    After h s (.remove faults) where
  stocks := by
    have forgotten : Stocks { s with loaded := none } h := stocks
    by_cases room : s.disk.place = .occupied
    · have stopped : ((StoreCall.remove faults).perform s).1 = { s with loaded := none } := by
        rw [StoreCall.perform, CertificateStore.remove, CertificateStore.deleteFiles,
          CertificateStore.delete, if_pos room]
      simpa [stopped, Holding.after, StoreCall.clears, room] using forgotten
    · simp only [Holding.after, StoreCall.makes?_remove, StoreCall.clears, decide_eq_true room,
        if_true]
      exact (forgotten.deleteFiles room faults).1
  generated := by
    have forgotten : Stocks { s with loaded := none } h := stocks
    by_cases room : s.disk.place = .occupied
    · rw [StoreCall.makes?_remove, StoreCall.perform, CertificateStore.remove,
        CertificateStore.deleteFiles, CertificateStore.delete, if_pos room]
      rfl
    · rw [StoreCall.makes?_remove]
      exact (forgotten.deleteFiles room faults).2
  given := by
    intro root given
    rw [StoreCall.perform] at given
    contradiction

theorem Stocks.after_load (stocks : Stocks s h) : After h s .load where
  stocks := by
    rw [Holding.after, StoreCall.makes?_load]
    exact stocks
  generated := by
    rw [StoreCall.makes?_load]
    rfl
  given := by
    intro root given
    refine ⟨?_, ?_⟩
    · rw [StoreCall.perform, toOption_eq_some] at given
      exact given
    · rw [StoreCall.PartsPair, StoreCall.makes?_load]
      simp

theorem Stocks.after_reopen (stocks : Stocks s h) : After h s .reopen where
  stocks := by
    rw [Holding.after, StoreCall.makes?_reopen]
    exact stocks
  generated := by
    rw [StoreCall.makes?_reopen]
    rfl
  given := by
    intro root given
    rw [StoreCall.perform] at given
    contradiction

/-- The store once both files are there: as it is, or with a new authority. -/
def ready (s : CertificateStore) (now : Nat) (faults : Faults) :
    CertificateStore × Except CertificateError Unit :=
  if s.exists? then (s, .ok ()) else s.generate now faults

theorem init_fst (s : CertificateStore) (now : Nat) (faults : Faults) :
    ∃ loaded, (s.init now faults).1 = { (s.ready now faults).1 with loaded } := by
  rw [init, ← ready]
  obtain ⟨s', _ | _⟩ := s.ready now faults
  · exact ⟨s'.loaded, rfl⟩
  · cases read : s'.load with
    | error e => exact ⟨s'.loaded, by simp only [read]⟩
    | ok root => exact ⟨some root, by simp only [read]⟩

theorem init_eq_ok (s : CertificateStore) (now : Nat) (faults : Faults) {root : Root} :
    (s.init now faults).2 = .ok root ↔
      (s.ready now faults).2 = .ok () ∧ (s.ready now faults).1.load = .ok root := by
  rw [init, ← ready]
  obtain ⟨s', _ | _⟩ := s.ready now faults
  · simp
  · cases read : s'.load with
    | error e => simp [read]
    | ok root' => simp [read]

theorem Stocks.after_init (stocks : Stocks s h) (now : Nat) (faults : Faults) :
    After h s (.init now faults) := by
  have ready : Stocks (s.ready now faults).1 (h.after s (.init now faults)) ∧
      (s.ready now faults).1.generated =
        s.generated + ((StoreCall.init now faults).makes? s).toList.length ∧
      ((s.ready now faults).2 = .ok () → ¬ (StoreCall.init now faults).PartsPair s) := by
    by_cases found : s.exists?
    · have idle : (StoreCall.init now faults).makes? s = none := by
        simp only [StoreCall.makes?, found, if_true, ite_self]
      rw [CertificateStore.ready, if_pos found, Holding.after, StoreCall.PartsPair, idle]
      exact ⟨stocks, rfl, by simp⟩
    · have same : (StoreCall.init now faults).makes? s =
          (StoreCall.generate now faults).makes? s := by
        simp only [StoreCall.makes?, if_neg found]
      obtain ⟨stocks', counted, sound⟩ := stocks.generate now faults
      rw [CertificateStore.ready, if_neg found, Holding.after, same]
      refine ⟨stocks', counted, fun done => ?_⟩
      rintro ⟨-, -, failed, -⟩
      exact Bool.false_ne_true ((sound done).symm.trans failed)
  obtain ⟨stocks', counted, sound⟩ := ready
  obtain ⟨loaded, after⟩ := init_fst s now faults
  refine ⟨?_, ?_, ?_⟩
  · rw [StoreCall.perform, after]
    exact stocks'
  · rw [StoreCall.perform, after]
    exact counted
  · intro root given
    rw [StoreCall.perform, toOption_eq_some, init_eq_ok] at given
    rw [StoreCall.perform, after]
    exact ⟨given.2, sound given.1⟩

/-- One call, whichever it is. -/
theorem Stocks.perform (stocks : Stocks s h) (call : StoreCall) : After h s call := by
  cases call with
  | init now faults => exact stocks.after_init now faults
  | generate now faults => exact stocks.after_generate now faults
  | load => exact stocks.after_load
  | remove faults => exact stocks.after_remove faults
  | reopen => exact stocks.after_reopen

/-! ## A row of calls -/

theorem MadeIn.mono {place : Place} {front calls : List StoreCall} {root : Root}
    (made : MadeIn place front root) (here : front <+: calls) : MadeIn place calls root := by
  obtain ⟨front', call, earlier, made⟩ := made
  exact ⟨front', call, earlier.trans here, made⟩

theorem makes?_eq_some {call : StoreCall} {root : Root} (made : call.makes? s = some root) :
    ∃ now, root = Root.generate s.generated now := by
  by_cases room : s.disk.place = .occupied
  · rw [StoreCall.makes?.eq_def, if_pos room] at made
    contradiction
  · rw [StoreCall.makes?.eq_def, if_neg room] at made
    cases call with
    | init now faults =>
        by_cases found : s.exists?
        · simp [found] at made
        · simp only [found] at made
          exact ⟨now, (Option.some.inj made).symm⟩
    | generate now faults => exact ⟨now, (Option.some.inj made).symm⟩
    | load | remove | reopen => contradiction

theorem Holding.renew_eq_some {made root : Root} {faults : Faults} {name : FileName}
    (held : h.renew made faults name = some root) : h name = some root ∨ made = root := by
  rw [renew] at held
  split_ifs at held
  · exact Or.inl held
  · cases name with
    | certificate => exact Or.inr (Option.some.inj held)
    | key => exact Or.inl held
  · exact Or.inr (Option.some.inj held)

theorem Holding.clear_eq_some {root : Root} {faults : Faults} {name : FileName}
    (held : h.clear faults name = some root) : h name = some root := by
  rw [clear] at held
  split_ifs at held
  · exact held
  · cases name with
    | certificate => contradiction
    | key => exact held

theorem Holding.after_eq_some {call : StoreCall} {root : Root} {name : FileName}
    (held : h.after s call name = some root) :
    h name = some root ∨ call.makes? s = some root := by
  rw [after] at held
  cases made : call.makes? s with
  | none =>
      rw [made] at held
      cases clears : call.clears s with
      | false => simpa [clears] using held
      | true => exact Or.inl (clear_eq_some (by simpa [clears] using held))
  | some root' =>
      rw [made] at held
      exact (renew_eq_some held).imp_right (congrArg some)

/-- What both files hold comes from one authority, if both hold something. -/
def Holding.Together (h : Holding) : Prop :=
  ∀ newer older, h .certificate = some newer → h .key = some older → newer = older

theorem Holding.Together.clear (together : h.Together) (faults : Faults) :
    (h.clear faults).Together := by
  rw [Holding.clear]
  split_ifs
  · exact together
  · intro newer older held _
    contradiction
  · intro newer older held _
    contradiction

theorem Holding.Together.renew (together : h.Together) (made : Root) (faults : Faults)
    (whole : faults.certificate = false → faults.key = true → h .key = none) :
    (h.renew made faults).Together := by
  rw [Holding.renew]
  split_ifs with certificate key
  · exact together
  · intro newer older _ held
    have kept : h .key = some older := held
    rw [whole (Bool.eq_false_iff.mpr certificate) key] at kept
    contradiction
  · intro newer older held held'
    exact (Option.some.inj held).symm.trans (Option.some.inj held')

/-- Only a call that parts certificate and key leaves them apart. -/
theorem Stocks.together (stocks : Stocks s h) {call : StoreCall} (whole : ¬ call.PartsPair s)
    (together : h.Together) : (h.after s call).Together := by
  rw [Holding.after]
  cases made : call.makes? s with
  | none =>
      cases clears : call.clears s with
      | false => exact together
      | true => exact together.clear call.faults
  | some root =>
      refine together.renew root call.faults fun written failed => ?_
      by_contra older
      refine whole ⟨by rw [made]; rfl, written, failed, ?_⟩
      rw [stocks .key, Option.isSome_map]
      exact Option.isSome_iff_ne_none.mpr older

/-- What holds of the files after a row of calls. -/
structure Kept (place : Place) (calls : List StoreCall) (h : Holding) : Prop where
  stocks : Stocks (play place calls) h
  made : ∀ name root, h name = some root → MadeIn place calls root
  early : ∀ root, MadeIn place calls root →
    ∃ number now, number < (play place calls).generated ∧ root = Root.generate number now
  together : (∀ front call, front ++ [call] <+: calls → ¬ call.PartsPair (play place front)) →
    h.Together

theorem madeIn_concat {place : Place} {calls : List StoreCall} {call : StoreCall} {root : Root} :
    MadeIn place (calls ++ [call]) root ↔
      MadeIn place calls root ∨ call.makes? (play place calls) = some root := by
  constructor
  · rintro ⟨front, call', here, made⟩
    rcases List.prefix_concat_iff.mp here with whole | earlier
    · obtain ⟨rfl, same⟩ := List.append_inj' whole rfl
      obtain rfl : call' = call := by simpa using same
      exact Or.inr made
    · exact Or.inl ⟨front, call', earlier, made⟩
  · rintro (made | made)
    · exact made.mono (List.prefix_append calls [call])
    · exact ⟨calls, call, List.prefix_rfl, made⟩

theorem Kept.step {place : Place} {calls : List StoreCall} {h : Holding} (kept : Kept place calls h)
    (call : StoreCall) : Kept place (calls ++ [call]) (h.after (play place calls) call) where
  stocks := by
    rw [play_concat]
    exact (kept.stocks.perform call).stocks
  made := by
    intro name root held
    rw [madeIn_concat]
    exact (Holding.after_eq_some held).imp_left (kept.made name root)
  early := by
    intro root made
    rw [play_concat, (kept.stocks.perform call).generated]
    rcases madeIn_concat.mp made with made | made
    · obtain ⟨number, now, before, rfl⟩ := kept.early root made
      exact ⟨number, now, Nat.lt_add_right _ before, rfl⟩
    · obtain ⟨now, same⟩ := makes?_eq_some made
      refine ⟨_, now, ?_, same⟩
      rw [made]
      exact Nat.lt_succ_self _
  together := by
    intro whole
    refine kept.stocks.together (whole calls call List.prefix_rfl) (kept.together ?_)
    intro front call' earlier
    exact whole front call' (earlier.trans (List.prefix_append calls [call]))

theorem exists_kept (place : Place) (calls : List StoreCall) : ∃ h, Kept place calls h := by
  induction calls using List.reverseRecOn with
  | nil =>
      refine ⟨fun _ => none, ?_, ?_, ?_, ?_⟩
      · intro name
        cases name <;> rfl
      · intro name root held
        contradiction
      · rintro root ⟨front, call, here, -⟩
        simp at here
      · intro _ newer older held _
        contradiction
  | append_singleton calls call ih =>
      obtain ⟨h, kept⟩ := ih
      exact ⟨_, kept.step call⟩

/-- What is loaded after a call that parts certificate and key. -/
theorem Stocks.load_of_partsPair (stocks : Stocks s h) {call : StoreCall}
    (parts : call.PartsPair s) :
    ∃ made older, call.makes? s = some made ∧ h .key = some older ∧
      (call.perform s).1.load = .ok ⟨made.certificate, older.key⟩ := by
  obtain ⟨makes, written, failed, there⟩ := parts
  obtain ⟨made, makes⟩ := Option.isSome_iff_exists.mp makes
  rw [stocks .key, Option.isSome_map] at there
  obtain ⟨older, held⟩ := Option.isSome_iff_exists.mp there
  have stocks' := (stocks.perform call).stocks
  rw [Holding.after, makes] at stocks'
  refine ⟨made, older, makes, held, stocks'.load_eq_ok.mpr ⟨made, older, ?_, ?_, rfl⟩⟩
  · simp [Holding.renew, Faults.hits, written, failed]
  · simp [Holding.renew, Faults.hits, written, failed, held]

/-- A certificate is parted from the key it was made with exactly when a call writes the certificate
of a new authority and then fails to write the key over an older one. In a run without such a call,
whatever `init` and `load` give out was made in one call; in any other run, what the next `load`
gives out was not. -/
theorem given_made_iff (place : Place) (calls : List StoreCall) :
    (∀ front, front <+: calls → ∀ call root,
        (call.perform (play place front)).2 = some root → MadeIn place (front ++ [call]) root) ↔
      ∀ front call, front ++ [call] <+: calls → ¬ call.PartsPair (play place front) := by
  constructor
  · intro sound front call here parts
    obtain ⟨h, kept⟩ := exists_kept place front
    obtain ⟨made, older, makes, held, loads⟩ := kept.stocks.load_of_partsPair parts
    rw [← play_concat] at loads
    obtain ⟨now, rfl⟩ := makes?_eq_some makes
    obtain ⟨number, _, before, rfl⟩ := kept.early older (kept.made .key older held)
    have given := sound _ here .load _ (toOption_eq_some.mpr loads)
    obtain ⟨_, kept'⟩ := exists_kept place (front ++ [call] ++ [.load])
    obtain ⟨number', now', -, same⟩ := kept'.early _ given
    obtain ⟨certificate, key⟩ := Root.mk.inj same
    have newest : (play place front).generated = number' :=
      Key.authority.inj (congrArg Certificate.key certificate)
    have oldest : number = number' := Key.authority.inj key
    omega
  · intro whole front here call root given
    obtain ⟨h, kept⟩ := exists_kept place front
    obtain ⟨loads, keeps⟩ := (kept.stocks.perform call).given root given
    have together := kept.stocks.together keeps
      (kept.together fun front' call' earlier => whole front' call' (earlier.trans here))
    have stocks' := (kept.stocks.perform call).stocks
    obtain ⟨newer, older, held, held', rfl⟩ := stocks'.load_eq_ok.mp loads
    obtain rfl := together newer older held held'
    exact (kept.step call).made .certificate newer held

/-- The second of two calls fails to write its key. -/
theorem parted_by_failed_key_write :
    let calls := [StoreCall.generate 0 {}, .generate 1 { key := true }]
    (play .missing calls).load = .ok ⟨(Root.generate 1 1).certificate, (Root.generate 0 0).key⟩ ∧
      ¬ MadeIn .missing (calls ++ [.load])
          ⟨(Root.generate 1 1).certificate, (Root.generate 0 0).key⟩ := by
  intro calls
  refine ⟨rfl, fun made => ?_⟩
  obtain ⟨_, kept⟩ := exists_kept .missing (calls ++ [.load])
  obtain ⟨number, now, -, same⟩ := kept.early _ made
  obtain ⟨certificate, key⟩ := Root.mk.inj same
  have newer : 1 = number := Key.authority.inj (congrArg Certificate.key certificate)
  have older : 0 = number := Key.authority.inj key
  omega

end CertificateStore

end FilteringProxy

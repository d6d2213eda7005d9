import PortaPhone.Dbs.Serializer
import PortaPhone.Lib.KeyValue
import PortaPhone.Lib.Machine
/-!
# The two key-value stores (`bss/dbs/__init__.py`, `bss/dbs/firestore.py`)

`TiedKeyValue` keeps the values, `FirestoreKeyValue` keeps a document for each of them. `Stores` runs both
beside each other; the documents are those of the values, whatever the operations are, and `stores_agree_iff`
says which operations give the same replies.
-/

namespace PortaPhone.Dbs

open Machine

/-! ## Values and their documents -/

def reservedKeys : List String := [objType, objData, objPacker, fullJson]

/-- A scalar, or a dictionary without the reserved keys. -/
def Simple : Value → Prop
  | .bool _ | .int _ | .float _ | .str _ => True
  | .dict fields => ∀ field ∈ fields, field.1 ∉ reservedKeys
  | _ => False

abbrev SimpleValue := { v : Value // Simple v }

theorem find_new {key : String} {v : Value} {d e : Fields} (h : ∀ field ∈ d, field.1 ≠ key) :
    Dict.find key (d ++ (key, v) :: e) = some v := by
  induction d with
  | nil => exact if_pos rfl
  | cons field d ih =>
    obtain ⟨k, u⟩ := field
    have hk : k ≠ key := h (k, u) List.mem_cons_self
    rw [List.cons_append, Dict.find, if_neg hk]
    exact ih fun field hfield => h field (List.mem_cons_of_mem _ hfield)

/-- The document of a dictionary: its items, then the two tags. -/
theorem tagged_simple {type packer : String} {d : Fields} (h : ∀ field ∈ d, field.1 ∉ reservedKeys) :
    tagged type packer d = d ++ [(objType, .str type), (objPacker, .str packer)] := by
  have htype : ∀ field ∈ d, field.1 ≠ objType := by
    intro field hfield heq
    exact h field hfield (heq ▸ by simp [reservedKeys])
  have hpacker : ∀ field ∈ d ++ [(objType, .str type)], field.1 ≠ objPacker := by
    intro field hfield heq
    rcases List.mem_append.1 hfield with hfield | hfield
    · exact h field hfield (heq ▸ by simp [reservedKeys])
    · rw [List.mem_singleton.1 hfield] at heq
      simp [objType, objPacker] at heq
  rw [tagged, Dict.setEntries_new htype, Dict.setEntries_new hpacker, List.append_assoc]
  rfl

/-- A value is read back from its document as it was. -/
theorem unpack_simple (env : Env) (v : SimpleValue) : unpack env (pack env v.1) = .ok v.1 := by
  obtain ⟨v, hv⟩ := v
  cases v with
  | bool b => rfl
  | int n => rfl
  | float bits => rfl
  | str s => rfl
  | dict fields =>
    have hne : ∀ key ∈ reservedKeys, ∀ field ∈ fields, field.1 ≠ key :=
      fun key hkey field hfield heq => hv field hfield (heq ▸ hkey)
    have hpacker : Dict.find objPacker (pack env (.dict fields)) = some (.str "dict") := by
      show Dict.find objPacker (tagged "dict" "dict" fields) = _
      rw [tagged_simple hv, List.append_cons]
      apply find_new
      intro field hfield
      rcases List.mem_append.1 hfield with hfield | hfield
      · exact hne _ (by simp [reservedKeys]) field hfield
      · rw [List.mem_singleton.1 hfield]
        simp [objType, objPacker]
    have hrest : (pack env (.dict fields)).filter (fun field => field.1 ≠ objType ∧ field.1 ≠ objPacker) = fields := by
      show (tagged "dict" "dict" fields).filter _ = _
      rw [tagged_simple hv, List.filter_append]
      have hkeep : fields.filter (fun field => field.1 ≠ objType ∧ field.1 ≠ objPacker) = fields :=
        List.filter_eq_self.2 fun field hfield => decide_eq_true
          ⟨hne _ (by simp [reservedKeys]) field hfield, hne _ (by simp [reservedKeys]) field hfield⟩
      rw [hkeep]
      simp [objType, objPacker]
    simp only [unpack, unpackWith, hpacker, hrest]
    rfl
  | none => exact hv.elim
  | datetime d => exact hv.elim
  | list items => exact hv.elim
  | root cls text => exact hv.elim
  | session s => exact hv.elim

/-- No value is its own document, which has the tags. -/
theorem simple_ne_pack (env : Env) (v : SimpleValue) : v.1 ≠ .dict (pack env v.1) := by
  obtain ⟨v, hv⟩ := v
  intro h
  cases v with
  | dict fields =>
    have hfields : fields = tagged "dict" "dict" fields := Value.dict.inj h
    rw [tagged_simple hv] at hfields
    simpa using congrArg List.length hfields
  | bool b => cases h
  | int n => cases h
  | float bits => cases h
  | str s => cases h
  | none => exact hv.elim
  | datetime d => exact hv.elim
  | list items => exact hv.elim
  | root cls text => exact hv.elim
  | session s => exact hv.elim

/-! ## The stores -/

/-- The operations. `default` is there when the argument is given. -/
inductive StoreOp
  | set (key : String) (v : SimpleValue)
  | getitem (key : String)
  | get (key : String) (default : Option Value)
  | pop (key : String) (default : Option Value)
  | delete (key : String)
  | contains (key : String)

/-- What an operation returns or raises. -/
inductive Reply
  | done
  | value (v : Value)
  | bool (b : Bool)
  | keyError (key : String)
  | valueError (text : String)
  | failed (e : Error)

abbrev TiedDb := KeyValue String SimpleValue

/-- `TiedKeyValue` (`__init__.py:5`). -/
def tied (db : TiedDb) : StoreOp → Reply × TiedDb
  | .set key v => (.done, db.set key v)
  | .getitem key => match db.get key with
    | some v => (.value v.1, db)
    | none => (.keyError key, db)
  | .get key default => match db.get key with
    | some v => (.value v.1, db)
    | none => (.value (default.getD .none), db)
  | .pop key default => match db.get key with
    | some v => (.value v.1, db.erase key)
    | none => (.value (default.getD .none), db)
  | .delete key => match db.get key with
    | some _ => (.done, db.erase key)
    | none => (.keyError key, db)
  | .contains key => (.bool (db.get key).isSome, db)

abbrev FirestoreDb := KeyValue String Fields

/-- `__getitem__` (`firestore.py:56`). -/
def firestoreGetitem (env : Env) (db : FirestoreDb) (key : String) : Reply :=
  if '/' ∈ key.toList then .valueError ("Invalid key: " ++ key ++ " - it cannot contain '/'")
  else match db.get key with
    | some doc => match unpack env doc with
      | .ok v => .value v
      | .error e => .failed e
    | none => .keyError key

/-- `FirestoreKeyValue` (`firestore.py:18`). -/
def firestore (env : Env) (db : FirestoreDb) : StoreOp → Reply × FirestoreDb
  | .set key v => (.done, db.set key (pack env v.1))
  | .getitem key => (firestoreGetitem env db key, db)
  | .get key default => match firestoreGetitem env db key with
    | .keyError _ => (.value (default.getD .none), db)
    | reply => (reply, db)
  | .pop key default => match db.get key, default with
    | some doc, _ => (.value (.dict doc), db.erase key)
    | none, some v => (.value v, db.erase key)
    | none, none => (.keyError key, db)
  | .delete key => (.done, db.erase key)
  | .contains key => (.bool (db.get key).isSome, db)

/-! ## Both stores beside each other -/

/-- The documents are those of the values. -/
def Documents (env : Env) (db : TiedDb) (fs : FirestoreDb) : Prop :=
  ∀ key, fs.get key = (db.get key).map fun v => pack env v.1

theorem Documents.set {env : Env} {db : TiedDb} {fs : FirestoreDb} (h : Documents env db fs) (key : String)
    (v : SimpleValue) : Documents env (db.set key v) (fs.set key (pack env v.1)) := by
  intro k
  rw [KeyValue.get_set, KeyValue.get_set, h k]
  split <;> rfl

theorem Documents.erase {env : Env} {db : TiedDb} {fs : FirestoreDb} (h : Documents env db fs) (key : String) :
    Documents env (db.erase key) (fs.erase key) := by
  intro k
  rw [KeyValue.get_erase, KeyValue.get_erase, h k]
  split <;> rfl

/-- Where there is no value there is no document to erase. -/
theorem Documents.erase_absent {env : Env} {db : TiedDb} {fs : FirestoreDb} (h : Documents env db fs)
    {key : String} (hkey : db.get key = none) : Documents env db (fs.erase key) := by
  have hdoc : fs.get key = none := by rw [h key, hkey, Option.map_none]
  rwa [KeyValue.erase_absent hdoc]

/-- Every operation keeps the documents those of the values, whether the replies agree or not. -/
theorem Documents.step {env : Env} {db : TiedDb} {fs : FirestoreDb} (h : Documents env db fs) (op : StoreOp) :
    Documents env (tied db op).2 (firestore env fs op).2 := by
  cases op with
  | set key v => exact h.set key v
  | getitem key =>
    simp only [tied]
    split <;> exact h
  | get key default =>
    simp only [tied, firestore]
    split <;> split <;> exact h
  | pop key default =>
    have hdoc := h key
    cases hkey : db.get key with
    | none =>
      rw [hkey, Option.map_none] at hdoc
      cases default with
      | none => simpa [tied, firestore, hkey, hdoc] using h
      | some v => simpa [tied, firestore, hkey, hdoc] using h.erase_absent hkey
    | some v =>
      rw [hkey, Option.map_some] at hdoc
      simpa [tied, firestore, hkey, hdoc] using h.erase key
  | delete key =>
    cases hkey : db.get key with
    | none => simpa [tied, firestore, hkey] using h.erase_absent hkey
    | some v => simpa [tied, firestore, hkey] using h.erase key
  | contains key => exact h

/-- Both stores, with the same contents. -/
structure Stores (env : Env) where
  tied : TiedDb
  firestore : FirestoreDb
  documents : Documents env tied firestore

def Stores.empty (env : Env) : Stores env := ⟨.empty, .empty, fun _ => rfl⟩

def storesStep (env : Env) (s : Stores env) (op : StoreOp) : Option (Stores env) :=
  some ⟨(tied s.tied op).2, (firestore env s.firestore op).2, s.documents.step op⟩

/-- Both stores give the same reply. -/
def Agree (env : Env) (s : Stores env) (op : StoreOp) : Prop :=
  (tied s.tied op).1 = (firestore env s.firestore op).1

/-- An entry is not read under a key with a `/`, an entry that is there is not popped, one that is not
there is popped with a default only, and is not deleted. -/
def Portable (db : TiedDb) : StoreOp → Prop
  | .set _ _ | .contains _ => True
  | .getitem key | .get key _ => '/' ∉ key.toList
  | .pop key default => db.get key = none ∧ default.isSome = true
  | .delete key => (db.get key).isSome = true

theorem firestoreGetitem_eq {env : Env} (s : Stores env) {key : String} (hkey : '/' ∉ key.toList) :
    firestoreGetitem env s.firestore key = match s.tied.get key with
      | some v => .value v.1
      | none => .keyError key := by
  rw [firestoreGetitem, if_neg hkey, s.documents key]
  cases s.tied.get key with
  | none => rfl
  | some v => simp only [Option.map_some, unpack_simple]

theorem agree_iff {env : Env} (s : Stores env) (op : StoreOp) : Agree env s op ↔ Portable s.tied op := by
  cases op with
  | set key v => simp [Agree, Portable, tied, firestore]
  | getitem key =>
    by_cases hkey : '/' ∈ key.toList
    · simp only [Agree, Portable, tied, firestore, firestoreGetitem, hkey, not_true_eq_false, iff_false]
      split <;> simp
    · simp only [Agree, Portable, tied, firestore, firestoreGetitem_eq s hkey, hkey, not_false_eq_true, iff_true]
      split <;> rfl
  | get key default =>
    by_cases hkey : '/' ∈ key.toList
    · simp only [Agree, Portable, tied, firestore, firestoreGetitem, hkey, not_true_eq_false, iff_false]
      split <;> simp
    · simp only [Agree, Portable, tied, firestore, firestoreGetitem_eq s hkey, hkey, not_false_eq_true, iff_true]
      cases s.tied.get key <;> rfl
  | pop key default =>
    have hdoc := s.documents key
    cases hkey : s.tied.get key with
    | none =>
      rw [hkey, Option.map_none] at hdoc
      cases default <;> simp [Agree, Portable, tied, firestore, hkey, hdoc]
    | some v =>
      rw [hkey, Option.map_some] at hdoc
      simpa [Agree, Portable, tied, firestore, hkey, hdoc] using simple_ne_pack env v
  | delete key =>
    cases hkey : s.tied.get key <;> simp [Agree, Portable, tied, firestore, hkey]
  | contains key => simp [Agree, Portable, tied, firestore, s.documents key]

/-- **The two stores.** In every run from any contents, the stores give the same replies at every step
exactly when every step is portable. -/
theorem stores_agree_iff (env : Env) (s : Stores env) (ops : List StoreOp) :
    Along (storesStep env) (fun s op _ => Agree env s op) s ops ↔
      Along (storesStep env) (fun s op _ => Portable s.tied op) s ops :=
  along_congr fun s op _ _ => agree_iff s op

/-- A value that is stored and popped comes back as its document. -/
theorem pop_stored : ¬ ∀ (env : Env) (ops : List StoreOp),
    Along (storesStep env) (fun s op _ => Agree env s op) (Stores.empty env) ops := by
  intro h
  have hpop := (along_snoc.1 (h bareEnv ([.set "otp" ⟨.int 7, trivial⟩] ++ [.pop "otp" none]))).2 _ _ rfl rfl
  cases hpop

end PortaPhone.Dbs

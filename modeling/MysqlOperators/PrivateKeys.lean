import MysqlOperators.Base64
import MysqlOperators.KeyRotation
import MysqlOperators.Python
import MysqlOperators.Scripted

/-!
The private keys that an operator may bring for TLS: the option of the charm names a
secret, and the secret holds the key in base64. Each hook reads it again when the
handler is built, and hands the key to the requirer of the certificates.
-/
namespace MysqlOperators.PrivateKeys
open MysqlOperators.Program MysqlOperators.Program.Prog MysqlOperators.External MysqlOperators.Helpers
open MysqlOperators.KeyRotation MysqlOperators.Scripted MysqlOperators.Base64
open MysqlOperators.Python (isSpace strip)

/-! ### The code -/

def isDash (c : Char) : Bool := c == '-'

/-- `[A-Z ]`. -/
def isLabel (c : Char) : Bool := c == ' ' || (65 ≤ c.toNat && c.toNat ≤ 90)

/-- The rest of the pattern of a header behind its dashes, for one of its two words. -/
def labelled (word text : List Char) : Bool :=
  match text.dropPrefix? word with
  | none => false
  | some label => label.head?.any isLabel && (label.dropWhile isLabel).head?.any isDash

/-- `re.match(private_key_pattern, text)`. No dash is in a word or a label, so that each
    repetition takes what it can. -/
def isHeader (text : List Char) : Bool :=
  text.head?.any isDash &&
    (labelled "BEGIN ".toList (text.dropWhile isDash) || labelled "END ".toList (text.dropWhile isDash))

section
variable (valid : String → Except Exn Bool)

/-- `parse_private_key`, with the test of the library's `PrivateKey`. -/
def TLSManager.parsePrivateKey (text : String) : Hook (Option String) :=
  if isHeader text.toList then pure none
  else
    match b64decode text.toList >>= ofUtf8 with
    | none => pure none
    | some raw =>
      match valid (String.ofList (strip isSpace raw)) with
      | .error e => raise e
      | .ok true => pure (some (String.ofList (strip isSpace raw)))
      | .ok false => pure none

def secretKey : String := "private-key"

/-- `_parse_private_key` of both handlers, each with its option. -/
def TLSEventHandler.parsePrivateKey (tls : TLSType) : Hook (Option String) := do
  match nonEmpty (← ask (.configValue tls.option)) with
  | none => pure none
  | some uri =>
    (SecretStore.getValue uri secretKey).tryElse Exn.isValueError (fun _ => pure none)
      (fun text => TLSManager.parsePrivateKey valid text)

end

/-! ### What a hook sees -/

/-- The options of the charm and the contents of the secrets by their ids. -/
structure Session where
  config : String → Option String
  secrets : String → Option Databag

/-- A failure other than that there is no such secret. -/
def unread (e : Exn) : Exn := if e.isValueError || e.isSecretNotFound then ⟨.modelError,e.text⟩ else e

/-- Juju finds a secret exactly if it is there. -/
def Session.answer (w : Session) : (c : Call) → Except Exn (Reply c) → Except Exn (Reply c)
  | .configValue name, .ok _ => .ok (w.config name)
  | .getSecret uri, .ok _ =>
    if (w.secrets uri).isSome then .ok () else .error ⟨.secretNotFoundError,"secret not found"⟩
  | .getSecret uri, .error e => if (w.secrets uri).isSome then .error (unread e) else .error e
  | .peekContent uri, .ok _ => .ok ((w.secrets uri).getD [])
  | .peekContent _, .error e => .error (unread e)
  | _, r => r

def rules : Rules Session Call Reply Exn := ⟨Session.answer,fun w _ _ _ => w⟩

/-! ### The text of a key -/

/-- What the tools that write base64 put between its lines. -/
def isBreak (c : Char) : Bool := c == ' ' || c == '\n' || c == '\r' || c == '\t'

/-- A text in base64, on any number of lines. -/
def Wraps (text key : String) : Prop :=
  text.toList.filter (fun c => !isBreak c) = encode (toUtf8 key.toList)

theorem break_skipped {c : Char} (broken : isBreak c = true) : isRead c = false ∧ isAscii c = true ∧ isDash c = false := by
  simp only [isBreak,Bool.or_eq_true,beq_iff_eq] at broken
  obtain ((rfl | rfl) | rfl) | rfl := broken <;> decide +kernel

theorem code_kept {c : Char} (kept : isCode c = true) : isBreak c = false ∧ isDash c = false := by
  constructor
  · by_contra broken
    have := break_skipped (by simpa using broken)
    simp [isCode,this.1] at kept
  · by_contra dash
    obtain rfl : c = '-' := by simpa [isDash] using dash
    revert kept
    decide +kernel

theorem wraps_cases {text key : String} (wraps : Wraps text key) :
    ∀ c ∈ text.toList, isBreak c = true ∨ isCode c = true := by
  intro c member
  by_cases broken : isBreak c = true
  · exact .inl broken
  · refine .inr (encode_isCode (toUtf8 key.toList) c ?_)
    rw [← wraps]
    exact List.mem_filter.mpr ⟨member,by simpa using broken⟩

theorem wraps_filter {text key : String} (wraps : Wraps text key) :
    text.toList.filter isRead = encode (toUtf8 key.toList) := by
  rw [← wraps]
  refine List.filter_congr fun c member => ?_
  rcases wraps_cases wraps c member with broken | kept
  · rw [(break_skipped broken).1,broken]
    rfl
  · rw [(code_kept kept).1]
    exact (Bool.and_eq_true_iff.mp kept).1

/-- The key is read back from the text. -/
theorem wraps_decoded {text key : String} (wraps : Wraps text key) :
    b64decode text.toList >>= ofUtf8 = some key.toList := by
  rw [@b64decode_encode (toUtf8 key.toList) _ (fun c member => ?_) (wraps_filter wraps)]
  · exact ofUtf8_toUtf8 key.toList
  · rcases wraps_cases wraps c member with broken | kept
    · exact (break_skipped broken).2.1
    · exact (Bool.and_eq_true_iff.mp kept).2

theorem wraps_unheaded {text key : String} (wraps : Wraps text key) : isHeader text.toList = false := by
  cases starts : text.toList with
  | nil => rfl
  | cons c rest =>
    have dashless : isDash c = false := by
      rcases wraps_cases wraps c (by rw [starts]; exact List.mem_cons_self) with broken | kept
      · exact (break_skipped broken).2.2
      · exact (code_kept kept).2
    rw [isHeader,List.head?_cons,Option.any_some,dashless,Bool.false_and]

/-! ### The key that a hook hands on -/

section
variable {valid : String → Except Exn Bool} {script : Script Call Reply Exn}

/-- The key without what surrounds it. -/
def stripped (key : String) : String := String.ofList (strip isSpace key.toList)

/-- What is made of a key: nothing of one that the library does not take. -/
def handedOn (valid : String → Except Exn Bool) (key : String) : Except Exn (Option String) :=
  (valid (stripped key)).map fun passes => if passes then some (stripped key) else none

/-- What is made of a text in the secret. -/
structure Parsed (valid : String → Except Exn Bool) (text : String) (r : Except Exn (Option String)) : Prop where
  wrapped : ∀ key, Wraps text key → r = handedOn valid key
  taken : ∀ key, r = .ok (some key) → valid key = .ok true ∧ isHeader text.toList = false

theorem leads_parse (text : String) (P : Scene Session Call → Prop) :
    Leads rules script P (TLSManager.parsePrivateKey valid text) (fun r _ => Parsed valid text r) := by
  unfold TLSManager.parsePrivateKey
  cases headed : isHeader text.toList with
  | true => exact leads_ret fun _ _ => ⟨fun key wraps => absurd headed (by simp [wraps_unheaded wraps]),nofun⟩
  | false =>
    rw [if_neg Bool.false_ne_true]
    cases decoded : b64decode text.toList >>= ofUtf8 with
    | none => exact leads_ret fun _ _ => ⟨fun key wraps => absurd (wraps_decoded wraps) (by simp [decoded]),nofun⟩
    | some raw =>
      have same {key : String} (wraps : Wraps text key) : stripped key = String.ofList (strip isSpace raw) := by
        cases decoded.symm.trans (wraps_decoded wraps)
        rfl
      dsimp only
      cases taken : valid (String.ofList (strip isSpace raw)) with
      | error e =>
        refine leads_raise fun _ _ => ⟨fun key wraps => ?_,nofun⟩
        rw [handedOn,same wraps,taken]
        rfl
      | ok passes =>
        cases passes with
        | true =>
          refine leads_ret fun _ _ => ⟨fun key wraps => ?_,fun key given => ?_⟩
          · rw [handedOn,same wraps,taken]
            rfl
          · cases given
            exact ⟨taken,headed⟩
        | false =>
          refine leads_ret fun _ _ => ⟨fun key wraps => ?_,nofun⟩
          rw [handedOn,same wraps,taken]
          rfl

theorem unread_uncaught (e : Exn) : (unread e).isValueError = false ∧ (unread e).isSecretNotFound = false := by
  unfold unread
  split
  · exact ⟨rfl,rfl⟩
  · rename_i other
    simpa using other

/-- What is known once the secret is asked for: an error that the handler catches says
    that there is none. -/
def Asked (w : Session) (uri : String) (r : Except Exn Unit) : Prop :=
  match r with
  | .ok _ => (w.secrets uri).isSome = true
  | .error e => e.isValueError = true → w.secrets uri = none

theorem leads_getSecret (uri : String) (w : Session) : Leads rules script (fun s => s.world = w)
    (SecretStore.getSecret uri) (fun r s => s.world = w ∧ Asked w uri r) := by
  refine leads_handle (Q := fun r s => s.world = w ∧ match r with
      | .ok _ => (w.secrets uri).isSome = true
      | .error e => e.isSecretNotFound = true ∨ e.isValueError = true → w.secrets uri = none)
    (leads_perform fun s n r _ same answered => ?_) (fun _ => leads_ret fun _ known => known) (fun e => ?_)
  · subst same
    refine ⟨rfl,?_⟩
    by_cases there : (s.world.secrets uri).isSome = true
    · cases raw : script.reply (.getSecret uri) n with
      | ok _ =>
        simp only [raw,rules,Session.answer,there,if_true] at answered
        subst answered
        exact there
      | error e =>
        simp only [raw,rules,Session.answer,there,if_true] at answered
        subst answered
        simp [unread_uncaught]
    · have absent : s.world.secrets uri = none := by simpa using there
      cases r with
      | error e => exact fun _ => absent
      | ok _ => cases raw : script.reply (.getSecret uri) n <;> simp [raw,rules,Session.answer,absent] at answered
  · by_cases missing : e.isSecretNotFound = true
    · rw [if_pos missing]
      exact leads_raise fun _ known => ⟨known.1,fun _ => known.2 (.inl missing)⟩
    · rw [if_neg missing]
      exact leads_raise fun _ known => ⟨known.1,fun caught => known.2 (.inr caught)⟩

/-- The value of a secret, or an error that the handler catches only if there is no such
    value. -/
def Fetched (w : Session) (uri key : String) (r : Except Exn String) : Prop :=
  match r with
  | .ok value => ∃ content, w.secrets uri = some content ∧ nonEmpty (content.lookup key) = some value
  | .error e => e.isValueError = true → ∀ content, w.secrets uri = some content → nonEmpty (content.lookup key) = none

theorem leads_getValue (uri key : String) (w : Session) : Leads rules script (fun s => s.world = w)
    (SecretStore.getValue uri key) (fun r _ => Fetched w uri key r) := by
  refine leads_bind (leads_getSecret uri w) (fun _ => ?_) (fun e s known caught content held => ?_)
  · refine leads_bind (Q := fun r _ => match r with
        | .ok content => w.secrets uri = some content
        | .error e => e.isValueError = false)
      (leads_perform fun s n r _ known answered => ?_) (fun content => ?_) (fun e s known caught => ?_)
    · obtain ⟨same,there⟩ := known
      obtain ⟨content,held⟩ := Option.isSome_iff_exists.mp there
      cases raw : script.reply (.peekContent uri) n with
      | ok _ =>
        simp only [raw,rules,Session.answer,same,held,Option.getD_some] at answered
        subst answered
        exact held
      | error e =>
        simp only [raw,rules,Session.answer] at answered
        subst answered
        exact (unread_uncaught e).1
    · cases found : nonEmpty (content.lookup key) with
      | none =>
        refine leads_raise fun _ held _ other same => ?_
        cases held.symm.trans same
        exact found
      | some value => exact leads_ret fun _ held => ⟨content,held,found⟩
    · rw [known] at caught
      cases caught
  · rw [known.2 caught] at held
    cases held

/-- What the handler is known to hand on. -/
structure HandsOn (valid : String → Except Exn Bool) (option : Option String) (w : Session) (result : Option String) :
    Prop where
  stored : ∀ uri content text key, nonEmpty option = some uri → w.secrets uri = some content →
    nonEmpty (content.lookup secretKey) = some text → Wraps text key → handedOn valid key = .ok result
  taken : ∀ key, result = some key → valid key = .ok true ∧ ∃ uri content text, nonEmpty option = some uri ∧
    w.secrets uri = some content ∧ nonEmpty (content.lookup secretKey) = some text ∧ isHeader text.toList = false

theorem leads_named (option : Option String) (w : Session) : Leads rules script (fun s => s.world = w)
    (match nonEmpty option with
      | none => pure none
      | some uri => (SecretStore.getValue uri secretKey).tryElse Exn.isValueError (fun _ => pure none)
          (fun text => TLSManager.parsePrivateKey valid text))
    (fun r _ => ∀ result, r = .ok result → HandsOn valid option w result) := by
  cases named : nonEmpty option with
  | none =>
    refine leads_ret fun _ _ result given => ?_
    cases given
    exact ⟨fun _ _ _ _ set_ => absurd (named.symm.trans set_) nofun,nofun⟩
  | some uri =>
    refine leads_handle (leads_getValue uri secretKey w) (fun text s fetched result given => ?_) (fun e => ?_)
    · obtain ⟨content,held,found⟩ := fetched
      have parsed := @leads_parse valid script text (fun _ => True) s trivial
      refine ⟨fun uri' content' text' key named' held' found' wraps => ?_,fun key taken => ?_⟩
      · obtain rfl : uri = uri' := Option.some.inj (named.symm.trans named')
        obtain rfl : content = content' := Option.some.inj (held.symm.trans held')
        obtain rfl : text = text' := Option.some.inj (found.symm.trans found')
        rw [← parsed.wrapped key wraps,given]
      · obtain ⟨passes,headless⟩ := parsed.taken key (by rw [given,taken])
        exact ⟨passes,uri,content,text,named,held,found,headless⟩
    · by_cases caught : e.isValueError = true
      · rw [if_pos caught]
        refine leads_ret fun _ fetched result given => ?_
        cases given
        refine ⟨fun uri' content text _ named' held found => ?_,nofun⟩
        obtain rfl : uri = uri' := Option.some.inj (named.symm.trans named')
        exact absurd (found.symm.trans (fetched caught content held)) nofun
      · rw [if_neg caught]
        exact leads_raise fun _ _ _ => nofun

theorem leads_parsePrivateKey (tls : TLSType) (w : Session) : Leads rules script (fun s => s.world = w)
    (TLSEventHandler.parsePrivateKey valid tls) (fun r _ => ∀ result, r = .ok result →
      HandsOn valid (w.config tls.option) w result) := by
  refine leads_bind (Q := fun r s => s.world = w ∧ ∀ option, r = .ok option → option = w.config tls.option)
    (leads_perform fun s n r _ same answered => ⟨same,fun option read => ?_⟩) (fun option => ?_) (fun _ _ _ => nofun)
  · rw [read] at answered
    cases raw : script.reply (.configValue tls.option) n with
    | ok _ =>
      simp only [raw,rules,Session.answer,same,Except.ok.injEq] at answered
      exact answered
    | error e =>
      rw [raw] at answered
      cases answered
  · by_cases read : option = w.config tls.option
    · subst read
      exact fun s known => leads_named (w.config tls.option) w s known.1
    · exact fun s known => absurd (known.2 option rfl) read

/-- Whatever calls fail, a hook that goes on hands on the key of the secret that the
    option names, without what surrounds it, if the library takes it, however the
    base64 is broken into lines; and it hands on nothing but what the library takes. -/
theorem key_handed_on (valid : String → Except Exn Bool) (script : Script Call Reply Exn) (tls : TLSType) (w : Session)
    {result : Option String} {s : Scene Session Call}
    (done : play rules script (TLSEventHandler.parsePrivateKey valid tls) w = (.ok result,s)) :
    (∀ uri content text key, nonEmpty (w.config tls.option) = some uri → w.secrets uri = some content →
      nonEmpty (content.lookup secretKey) = some text → Wraps text key → handedOn valid key = .ok result) ∧
    ∀ key, result = some key → valid key = .ok true ∧ ∃ uri content text, nonEmpty (w.config tls.option) = some uri ∧
      w.secrets uri = some content ∧ nonEmpty (content.lookup secretKey) = some text ∧ isHeader text.toList = false := by
  have handsOn := @leads_parsePrivateKey valid script tls w _ rfl result (congrArg Prod.fst done)
  exact ⟨handsOn.stored,handsOn.taken⟩

/-- A library that takes one key, and a secret with it on two lines. -/
def takes (key : String) : Except Exn Bool := .ok (key == "--- key")

def brought : Session :=
  ⟨fun name => if name = TLSType.peer.option then some "secret:key" else none,
    fun uri => if uri = "secret:key" then some [(secretKey,"LS0t\nIGtleQo=\n")] else none⟩

def smooth : Script Call Reply Exn := ⟨fun _ _ => .ok default,fun _ _ => true⟩

theorem key_handed_on_peer :
    (∀ uri content text key, nonEmpty (brought.config TLSType.peer.option) = some uri → brought.secrets uri = some content →
      nonEmpty (content.lookup secretKey) = some text → Wraps text key → handedOn takes key = .ok (some "--- key")) ∧
    ∀ key, some "--- key" = some key → takes key = .ok true ∧ ∃ uri content text,
      nonEmpty (brought.config TLSType.peer.option) = some uri ∧ brought.secrets uri = some content ∧
      nonEmpty (content.lookup secretKey) = some text ∧ isHeader text.toList = false :=
  key_handed_on takes smooth .peer brought (Prod.ext (by decide +kernel) rfl :
    play rules smooth (TLSEventHandler.parsePrivateKey takes .peer) brought =
      (_,(play rules smooth (TLSEventHandler.parsePrivateKey takes .peer) brought).2))

end

end MysqlOperators.PrivateKeys

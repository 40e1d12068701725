import Mathlib.Data.List.Infix
import Nchan.Lib.Cut
import Nchan.MsgIdText

/-! # URLs of Redis servers

A server is given as a URL, and possibly the role that it is to have.  The role is written behind
the URL, and both are parsed together later on.  The parser looks for a space only behind a port
that no database follows: anywhere else the role becomes part of the name of the host, or makes the
number of the database invalid.
-/

namespace Nchan.Redis

open Nchan.Lib List Option

inductive ForcedRole where
  | none | master | slave
  deriving DecidableEq

/-- `redis_connect_params_t`. -/
structure ConnectParams where
  hostname : Text
  port : Nat
  username : Text
  password : Text
  db : Nat
  useTls : Bool
  forcedRole : ForcedRole
  deriving DecidableEq

/-- `redis://` -/
def redisScheme : Text := ['r', 'e', 'd', 'i', 's', ':', '/', '/']

/-- `rediss://` -/
def redissScheme : Text := ['r', 'e', 'd', 'i', 's', 's', ':', '/', '/']

def masterText : Text := ['m', 'a', 's', 't', 'e', 'r']

def slaveText : Text := ['s', 'l', 'a', 'v', 'e']

/-! ## Parsing

`ngx_strlchr` finds the first of some character: the text is cut there. -/

/-- Whether TLS is used, and what follows the scheme. -/
def parseScheme (url : Text) : Bool × Text :=
  if redisScheme <+: url then (false, url.drop 8)
  else if redissScheme <+: url then (true, url.drop 9)
  else (false, url)

/-- The name and the password of a user, and what follows.  There has to be a colon between. -/
def parseCredentials (cur : Text) : Option (Text × Text × Text) :=
  match cut '@' cur with
  | some (credentials, rest) =>
    (cut ':' credentials).map fun (username, password) => (username, password, rest)
  | none => some ([], [], cur)

def parseAddress (cur : Text) : Option (Text × Nat × Text) :=
  match cut ':' cur with
  | none =>
    -- just host
    match cut '/' cur with
    | none => some (cur, 6379, [])
    | some (host, rest) => some (host, 6379, '/' :: rest)
  | some (host, cur) =>
    let (port, rest) :=
      match cut '/' cur with
      | some (port, rest) => (port, '/' :: rest)
      | none =>
        match cut ' ' cur with
        | some (port, rest) => (port, ' ' :: rest)
        | none => (cur, [])
    (MsgId.ngxAtoi port).map fun port => (host, port, rest)

def parseDb (cur : Text) : Nat × Text :=
  match cur with
  | '/' :: rest => ((MsgId.ngxAtoi rest).getD 0, rest)
  | _ => (0, cur)

def parseRole (leftovers : Text) : ForcedRole :=
  if masterText <:+: leftovers then .master
  else if slaveText <:+: leftovers then .slave
  else .none

/-- `parse_redis_url`. -/
def parseRedisUrl (url : Text) : Option ConnectParams := do
  let (useTls, cur) := parseScheme url
  let (username, password, cur) ← parseCredentials cur
  let (hostname, port, cur) ← parseAddress cur
  let (db, leftovers) := parseDb cur
  some ⟨hostname, port, username, password, db, useTls, parseRole leftovers⟩

/-! ## Composing -/

inductive ServerRole where
  | master | slave | replica

def ServerRole.forced : ServerRole → ForcedRole
  | .master => .master
  | .slave => .slave
  | .replica => .slave

/-- What is written behind the URL, the null character at the end included. -/
def ServerRole.suffix : ServerRole → Text
  | .master => ' ' :: masterText ++ ['\x00']
  | .slave => ' ' :: slaveText ++ ['\x00']
  | .replica => ' ' :: slaveText ++ ['\x00']

/-- The name of a server with a role, by `ngx_conf_upstream_redis_server`. -/
def serverName (url : Text) (role : ServerRole) : Text := url ++ role.suffix

structure ServerUrl where
  useTls : Bool
  credentials : Option (Text × Text)
  host : Text
  port : Option Nat
  db : Option Nat

def Plain (text : Text) : Prop := ∀ c ∈ text, c ≠ '@' ∧ c ≠ ':' ∧ c ≠ '/' ∧ c ≠ ' '

namespace ServerUrl

structure WellFormed (url : ServerUrl) : Prop where
  credentials : ∀ c ∈ url.credentials, Plain c.1 ∧ Plain c.2
  host : Plain url.host
  port : ∀ n ∈ url.port, n < 2 ^ 63
  db : ∀ n ∈ url.db, n < 2 ^ 63

def scheme (url : ServerUrl) : Text := if url.useTls then redissScheme else redisScheme

def userinfo (url : ServerUrl) : Text :=
  match url.credentials with
  | none => []
  | some (username, password) => username ++ ':' :: password ++ ['@']

def portText (url : ServerUrl) : Text :=
  match url.port with
  | none => []
  | some port => ':' :: Nat.toDigits 10 port

def dbText (url : ServerUrl) : Text :=
  match url.db with
  | none => []
  | some db => '/' :: Nat.toDigits 10 db

def text (url : ServerUrl) : Text :=
  url.scheme ++ (url.userinfo ++ (url.host ++ (url.portText ++ url.dbText)))

def params (url : ServerUrl) : ConnectParams where
  hostname := url.host
  port := url.port.getD 6379
  username := (url.credentials.map (·.1)).getD []
  password := (url.credentials.map (·.2)).getD []
  db := url.db.getD 0
  useTls := url.useTls
  forcedRole := .none

end ServerUrl

/-! ## Separators -/

theorem digits_plain (n : Nat) : Plain (Nat.toDigits 10 n) := by
  intro c on
  have digit : c.isDigit := Nat.isDigit_of_mem_toDigits (by decide) (by decide) on
  refine ⟨?_, ?_, ?_, ?_⟩
  all_goals
    rintro rfl
    cases digit

/-- What is put behind a URL: nothing, or a space and a role. -/
structure Behind (suffix : Text) : Prop where
  spaced : suffix = [] ∨ ∃ rest, suffix = ' ' :: rest
  free : ∀ c ∈ suffix, c ≠ '@' ∧ c ≠ ':' ∧ c ≠ '/'

theorem ServerRole.behind (role : ServerRole) : Behind role.suffix := by
  cases role <;> exact ⟨.inr ⟨_, rfl⟩, by simp [suffix, masterText, slaveText]⟩

theorem behind_nil : Behind [] := ⟨.inl rfl, fun c on => by cases on⟩

/-! ## Each part -/

namespace ServerUrl

variable {url : ServerUrl} {suffix : Text}

theorem parseScheme_scheme (url : ServerUrl) (rest : Text) :
    parseScheme (url.scheme ++ rest) = (url.useTls, rest) := by
  unfold scheme
  cases url.useTls with
  | false => simp [parseScheme, redisScheme]
  | true => simp [parseScheme, redisScheme, redissScheme]

section

variable (formed : url.WellFormed)

include formed

theorem parseCredentials_userinfo {rest : Text} (free : '@' ∉ rest) :
    parseCredentials (url.userinfo ++ rest) =
      some ((url.credentials.map (·.1)).getD [], (url.credentials.map (·.2)).getD [], rest) := by
  unfold userinfo
  cases is : url.credentials with
  | none => simp [parseCredentials, cut_none free]
  | some pair =>
    obtain ⟨username, password⟩ := pair
    obtain ⟨plainName, plainPassword⟩ := formed.credentials _ is
    have noAt : '@' ∉ username ++ ':' :: password := by
      simp only [mem_append, mem_cons]
      rintro (on | same | on)
      · exact (plainName _ on).1 rfl
      · cases same
      · exact (plainPassword _ on).1 rfl
    have noColon : ':' ∉ username := fun on => (plainName _ on).2.1 rfl
    have split : (username ++ ':' :: password ++ ['@']) ++ rest =
        (username ++ ':' :: password) ++ '@' :: rest := by simp
    simp only [split, parseCredentials, cut_append noAt, cut_append noColon]
    rfl

theorem parseAddress_address (behind : Behind suffix) :
    parseAddress (url.host ++ (url.portText ++ (url.dbText ++ suffix))) = some
      (if url.port = none ∧ url.db = none then url.host ++ suffix else url.host,
        url.port.getD 6379,
        if url.port = none ∧ url.db = none then [] else url.dbText ++ suffix) := by
  have hostColon : ':' ∉ url.host := fun on => (formed.host _ on).2.1 rfl
  have hostSlash : '/' ∉ url.host := fun on => (formed.host _ on).2.2.1 rfl
  have suffixColon : ':' ∉ suffix := fun on => (behind.free _ on).2.1 rfl
  have suffixSlash : '/' ∉ suffix := fun on => (behind.free _ on).2.2 rfl
  have dbColon : ':' ∉ url.dbText := by
    unfold dbText
    cases url.db with
    | none => simp
    | some db =>
      rw [mem_cons]
      rintro (same | on)
      · cases same
      · exact (digits_plain db _ on).2.1 rfl
  cases hasPort : url.port with
  | none =>
    have noColon : ':' ∉ url.host ++ (url.dbText ++ suffix) := by
      simp [hostColon, dbColon, suffixColon]
    simp only [portText, hasPort, nil_append, parseAddress, cut_none noColon]
    cases hasDb : url.db with
    | none =>
      have noSlash : '/' ∉ url.host ++ suffix := by simp [hostSlash, suffixSlash]
      simp [dbText, hasDb, cut_none noSlash]
    | some db => simp [dbText, hasDb, cut_append hostSlash]
  | some port =>
    have portSlash : '/' ∉ Nat.toDigits 10 port := fun on => (digits_plain port _ on).2.2.1 rfl
    have portSpace : ' ' ∉ Nat.toDigits 10 port := fun on => (digits_plain port _ on).2.2.2 rfl
    have value := MsgId.ngxAtoi_toDigits (formed.port port hasPort)
    simp only [portText, hasPort, cons_append, parseAddress, cut_append hostColon]
    cases hasDb : url.db with
    | none =>
      -- the port ends at the space, if there is one
      cases behind.spaced with
      | inl empty => simp [dbText, hasDb, empty, cut_none portSlash, cut_none portSpace, value]
      | inr space =>
        obtain ⟨rest, rfl⟩ := space
        have noSlash : '/' ∉ Nat.toDigits 10 port ++ ' ' :: rest := by
          rw [mem_append, not_or]
          exact ⟨portSlash, suffixSlash⟩
        simp [dbText, hasDb, cut_none noSlash, cut_append portSpace, value]
    | some db => simp [dbText, hasDb, cut_append portSlash, value]

theorem address_free (behind : Behind suffix) :
    '@' ∉ url.host ++ (url.portText ++ (url.dbText ++ suffix)) := by
  have suffixFree : '@' ∉ suffix := fun on => (behind.free _ on).1 rfl
  have hostFree : '@' ∉ url.host := fun on => (formed.host _ on).1 rfl
  have portFree : '@' ∉ url.portText := by
    unfold portText
    cases url.port with
    | none => simp
    | some port => simpa using fun on => (digits_plain port _ on).1 rfl
  have dbFree : '@' ∉ url.dbText := by
    unfold dbText
    cases url.db with
    | none => simp
    | some db => simpa using fun on => (digits_plain db _ on).1 rfl
  simp [suffixFree, hostFree, portFree, dbFree]

theorem parseRedisUrl_behind (behind : Behind suffix) :
    parseRedisUrl (url.text ++ suffix) = some { url.params with
      hostname := if url.port = none ∧ url.db = none then url.host ++ suffix else url.host
      db := (parseDb (if url.port = none ∧ url.db = none then [] else url.dbText ++ suffix)).1
      forcedRole := parseRole
        (parseDb (if url.port = none ∧ url.db = none then [] else url.dbText ++ suffix)).2 } := by
  have shape : url.text ++ suffix =
      url.scheme ++ (url.userinfo ++ (url.host ++ (url.portText ++ (url.dbText ++ suffix)))) := by
    simp [text]
  rw [shape, parseRedisUrl, parseScheme_scheme]
  simp only [parseCredentials_userinfo formed (address_free formed behind), bind_eq_bind,
    bind_some, parseAddress_address formed behind]
  rfl

end

/-! ## What is left over -/

theorem parseRole_digits (n : Nat) : parseRole (Nat.toDigits 10 n) = .none := by
  have digits : ∀ c ∈ Nat.toDigits 10 n, c.isDigit := fun c on =>
    Nat.isDigit_of_mem_toDigits (by decide) (by decide) on
  have noMaster : ¬ masterText <:+: Nat.toDigits 10 n := fun within => by
    cases digits 'm' (within.subset (by decide))
  have noSlave : ¬ slaveText <:+: Nat.toDigits 10 n := fun within => by
    cases digits 's' (within.subset (by decide))
  rw [parseRole, if_neg noMaster, if_neg noSlave]

theorem parseRole_suffix {digits : Text} (all : ∀ c ∈ digits, c.isDigit) (role : ServerRole) :
    parseRole (digits ++ role.suffix) = role.forced := by
  have noM : 'm' ∉ digits := fun on => by cases all _ on
  have found : ∀ name : Text, name <:+: digits ++ (' ' :: name ++ ['\x00']) := fun name =>
    ⟨digits ++ [' '], ['\x00'], by simp⟩
  have slave : parseRole (digits ++ (' ' :: slaveText ++ ['\x00'])) = .slave := by
    have noMaster : ¬ masterText <:+: digits ++ (' ' :: slaveText ++ ['\x00']) := fun within => by
      have on := within.subset (show 'm' ∈ masterText by decide)
      rw [mem_append] at on
      exact absurd (on.resolve_left noM) (by decide)
    rw [parseRole, if_neg noMaster, if_pos (found slaveText)]
  cases role with
  | master => exact if_pos (found masterText)
  | slave => exact slave
  | replica => exact slave

theorem ngxAtoi_suffix (digits : Text) (role : ServerRole) :
    MsgId.ngxAtoi (digits ++ role.suffix) = none := by
  refine if_neg fun number => ?_
  have all := all_eq_true.mp number.2.1
  have space : ' ' ∈ digits ++ role.suffix := by
    cases role <;> simp [ServerRole.suffix]
  exact absurd (all _ space) (by decide)

theorem parseDb_suffix (url : ServerUrl) (role : ServerRole) :
    ∃ leftovers, parseDb (url.dbText ++ role.suffix) = (0, leftovers) ∧
      parseRole leftovers = role.forced := by
  unfold dbText
  cases url.db with
  | none =>
    refine ⟨role.suffix, ?_, @parseRole_suffix [] (fun c on => by cases on) role⟩
    cases role <;> rfl
  | some db =>
    refine ⟨Nat.toDigits 10 db ++ role.suffix, ?_, parseRole_suffix ?_ role⟩
    · simp [parseDb, ngxAtoi_suffix]
    · exact fun c on => Nat.isDigit_of_mem_toDigits (by decide) (by decide) on

/-- The parts of a URL are what it is parsed as.  With a role behind it they stay the same if and
    only if the database is 0, or none is given but a port. -/
theorem parseRedisUrl_text (formed : url.WellFormed) :
    parseRedisUrl url.text = some url.params ∧
      ∀ role : ServerRole,
        parseRedisUrl (serverName url.text role) = some { url.params with forcedRole := role.forced } ↔
          url.db = some 0 ∨ url.db = none ∧ url.port.isSome := by
  constructor
  · have parsed := parseRedisUrl_behind formed behind_nil
    rw [append_nil, append_nil, append_nil, ite_self] at parsed
    rw [parsed, Option.some.injEq]
    cases hasDb : url.db with
    | none =>
      have nothing : parseRole [] = .none := by decide
      simp [dbText, hasDb, parseDb, nothing, params]
    | some db =>
      have value := MsgId.ngxAtoi_toDigits (formed.db db hasDb)
      simp [dbText, hasDb, parseDb, value, parseRole_digits, params]
  · intro role
    obtain ⟨leftovers, isDb, isRole⟩ := url.parseDb_suffix role
    rw [serverName, parseRedisUrl_behind formed role.behind]
    by_cases bare : url.port = none ∧ url.db = none
    · -- the role has become part of the name
      have longer : url.host ++ role.suffix ≠ url.host := by
        cases role <;> simp [ServerRole.suffix]
      simp [bare, params, longer]
    · rw [if_neg bare, if_neg bare, isDb, isRole]
      cases hasDb : url.db with
      | none =>
        have hasPort : url.port.isSome := by
          rw [isSome_iff_ne_none]
          exact fun none_ => bare ⟨none_, hasDb⟩
        simp [params, hasDb, hasPort]
      | some db =>
        have same : (0 = db) = (db = 0) := propext eq_comm
        simp [params, hasDb, same]

/-- A server by its name and port, without and with a role. -/
theorem parseRedisUrl_text_port :
    parseRedisUrl (redisScheme ++ ['h', ':', '1']) = some ⟨['h'], 1, [], [], 0, false, .none⟩ ∧
      parseRedisUrl (redisScheme ++ ['h', ':', '1'] ++ ' ' :: slaveText ++ ['\x00']) =
        some ⟨['h'], 1, [], [], 0, false, .slave⟩ := by
  have formed : WellFormed ⟨false, none, ['h'], some 1, none⟩ :=
    ⟨fun c on => (by cases on), by simp [Plain], by decide, by decide⟩
  obtain ⟨plain, roles⟩ := parseRedisUrl_text formed
  exact ⟨plain, (roles .replica).mpr (.inr ⟨rfl, rfl⟩)⟩

/-- With a role, the database is lost, and so is the role when there is nothing but a name. -/
theorem role_changes_server :
    parseRedisUrl (serverName (redisScheme ++ ['h', ':', '1', '/', '5']) .master) =
        some ⟨['h'], 1, [], [], 0, false, .master⟩ ∧
      parseRedisUrl (serverName (redisScheme ++ ['h']) .master) =
        some ⟨['h', ' '] ++ masterText ++ ['\x00'], 6379, [], [], 0, false, .none⟩ := by
  decide

end ServerUrl

end Nchan.Redis

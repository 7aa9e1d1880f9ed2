import ProgramDeploy.Proofs.ConfigLoading
import ProgramDeploy.Proofs.ConfiguredUpload
import ProgramDeploy.Proofs.DeploymentParts
import ProgramDeploy.Proofs.Rendering

namespace ProgramDeploy

open ProgramDeploy.Action

namespace Run

namespace Sample

def document : Value := .dict [("program", .dict [("gas_limit", .int 5)])]

def text : List Char :=
  ['\x7b', '"', 'p', 'r', 'o', 'g', 'r', 'a', 'm', '"', ':',
   '\x7b', '"', 'g', 'a', 's', '_', 'l', 'i', 'm', 'i', 't', '"', ':', '5', '\x7d', '\x7d']

def content : Bytes :=
  text.flatMap String.utf8EncodeChar

def configPath : Value := .text "deploy.json"

def seed : Bytes := List.replicate 32 1

def world : World where
  files := ⟨[([Text.Utf8.encode "dex.wasm"], .file [0]),
    ([Text.Utf8.encode "deploy.json"], .file content)]⟩
  environment
    | .wasmPath => some "dex.wasm"
    | .deployerSeed => some (Hex.marked seed)
    | _ => none
  entropy := [7]
  network := []

def config : Config :=
  [("node", [("provider_address", .text "wss://testnet.vara.network"), ("ss58_format", .int 137)]),
   ("program", [("wasm_path", .text "dex.wasm"), ("gas_limit", .int 5), ("value", .int 1000),
     ("keep_alive", .bool true), ("init_payload", .null), ("router_init", .null)]),
   ("account", [("name", .text "Anme"), ("seed", .text (Hex.marked seed))]),
   ("submission", [("wait_for_inclusion", .bool true), ("wait_for_finalization", .bool false)])]

def deployer : Deployer :=
  ⟨some .default, config.toValue, .dict (config.sectionOf "program"), .dict (config.sectionOf "submission")⟩

def program : Program := ⟨[0], .int 5, .int 1000, [], .bytes (List.replicate 20 7)⟩

theorem contains_configPath : world.files.contains configPath = .ok true := rfl

theorem read_configPath : world.files.read configPath = .ok content := rfl

theorem decode_content : Text.Utf8.decode content = .ok text := by
  have hbytes : content = text.map fun c => c.toNat.toUInt8 := rfl
  rw [hbytes, Text.Utf8.decode]
  simp [text, Text.Utf8.decodeFrom_ascii, Text.Utf8.decodeFrom, Except.map]

theorem readValue_inner (fuel depth : Nat) :
    Json.readValue (fuel + 3) (depth + 1) ⟨11, text.drop 11⟩ =
      .ok (.dict [("gas_limit", .int 5)], ⟨26, text.drop 26⟩) := by
  have hname : Json.readText 12 13 (text.drop 13) = .ok ("gas_limit".toList.map .char, ⟨23, text.drop 23⟩) := by
    simp [Json.readText, text, Json.prepend, Except.map]
  have hmembers : Json.readMembers (fuel + 2) depth ⟨12, text.drop 12⟩ =
      .ok ([("gas_limit", .int 5)], ⟨26, text.drop 26⟩) := by
    show (Json.readText 12 13 (text.drop 13) >>= _) = _
    rw [hname]
    rfl
  show (Json.readMembers (fuel + 2) depth ⟨12, text.drop 12⟩).map _ = _
  rw [hmembers]
  rfl

theorem readValue_text (fuel depth : Nat) :
    Json.readValue (fuel + 5) (depth + 2) ⟨0, text⟩ = .ok (document, ⟨27, []⟩) := by
  have hname : Json.readText 1 2 (text.drop 2) = .ok ("program".toList.map .char, ⟨10, text.drop 10⟩) := by
    simp [Json.readText, text, Json.prepend, Except.map]
  have hmembers : Json.readMembers (fuel + 4) (depth + 1) ⟨1, text.drop 1⟩ =
      .ok ([("program", .dict [("gas_limit", .int 5)])], ⟨27, []⟩) := by
    show (Json.readText 1 2 (text.drop 2) >>= _) = _
    rw [hname]
    show (Json.readValue (fuel + 3) (depth + 1) ⟨11, text.drop 11⟩ >>= _) = _
    rw [readValue_inner]
    rfl
  show (Json.readMembers (fuel + 4) (depth + 1) ⟨1, text.drop 1⟩).map _ = _
  rw [hmembers]
  rfl

theorem documentOf_content : Config.documentOf levels content = .ok document := by
  have hread : Json.readDocument levels text = .ok document := by
    show (Json.readValue (51 + 5) (976 + 2) ⟨0, text⟩ >>= _) = _
    rw [readValue_text]
    rfl
  show ((Text.Utf8.decode content).mapError _ >>= _) = _
  rw [decode_content]
  show (Json.read levels text).mapError _ = _
  rw [Json.read, hread]
  rfl

theorem documentAt_configPath : Config.documentAt world levels configPath = some document := by
  simp only [Config.documentAt, contains_configPath, read_configPath, bind, Except.bind, documentOf_content]
  rfl

theorem run_loadFile : (Config.loadFile levels configPath).run world 0 =
    ⟨Config.default.overlayDocument document, [.log .debug "Loaded config from deploy.json"], 0⟩ := by
  obtain ⟨c, hc⟩ : ∃ c, Config.default.overlayDocument document = .ok c := ⟨_, rfl⟩
  unfold Config.loadFile
  rw [run_bind, run_world]
  dsimp only
  rw [Outcome.after_nil, run_bind_liftM, contains_configPath, Outcome.settle_ok, if_pos rfl,
    run_bind_liftM, read_configPath, Outcome.settle_ok, run_bind_liftM, documentOf_content,
    Outcome.settle_ok, run_bind_liftM, hc]
  rfl

theorem load_configPath : ((Config.load levels configPath).run world 0).result = .ok config := by
  unfold Config.load
  rw [run_bind, run_loadFile]
  rfl

theorem exists_derive : ∃ made, Wallet.derive config.toValue = .ok made := by
  have hlength : seed.length = Secret.size := rfl
  have hnumber : Account.formatNumber (.int 137) = .ok 137 := rfl
  have hmnemonic : (Value.dict (config.sectionOf "account")).fieldOrNull "mnemonic" = .ok .null := rfl
  exact Wallet.exists_derive rfl rfl rfl rfl hmnemonic rfl rfl hlength hnumber rfl

theorem submit_mem_create : .submit (.bool true) (.bool false) ∈
    ((deployer.create (.bytes [0]) .null).run world 1).trace := by
  obtain ⟨made, hmade⟩ := exists_derive
  have hdescriptor : deployer.descriptor (.bytes [0]) .null world.entropy = .ok program := rfl
  have hshort (n : Int) (h : n.natAbs < Nat.pow 10 4) : Numeral.IsShort n :=
    Numeral.isShort_of_lt (by decide) h
  obtain ⟨gasLimit, hgas⟩ := Value.shown_int_of_isShort (hshort 5 (by decide))
  obtain ⟨value, hvalue⟩ := Value.shown_int_of_isShort (hshort 1000 (by decide))
  obtain ⟨call, -, hsubmit⟩ := Deployer.calls_mem_create (d := deployer) (w := world) (n := 1)
    Script.answers_plain hdescriptor hmade rfl rfl rfl hgas hvalue rfl rfl
  exact hsubmit

def parts : Parts :=
  ⟨⟨config, .dict (config.sectionOf "program"), .text "dex.wasm", .default⟩, [0], .null, deployer⟩

theorem found_parts : parts.Found 0 configPath world 0 where
  config := load_configPath
  program := rfl
  artifact := rfl
  code := rfl
  payload := rfl
  client := rfl
  info := ⟨_, rfl⟩
  deployer := rfl

theorem submit_mem_deploy :
    .submit (.bool true) (.bool false) ∈ ((deploy 0 configPath).run world 0).trace :=
  (found_parts.submit_mem_deploy_iff _ _).mpr submit_mem_create

end Sample

/-- A deployment that submits an extrinsic has asked the configured node who it is, and then uploads
the configured artifact in one more session. -/
theorem submits_what_is_configured {outer : Nat} {path : Value} {w : World} {n : Nat}
    {artifact waits waits' : Value}
    (hartifact : Config.effective w.environment (Config.documentAt w (outer + levels) path)
      "program" "wasm_path" = some artifact)
    (hsubmit : .submit waits waits' ∈ ((deploy outer path).run w n).trace) :
    let setting := Config.effective w.environment (Config.documentAt w (outer + levels) path)
    ∃ url format call signer inclusion finalization fields,
      setting "node" "provider_address" = some url ∧ setting "node" "ss58_format" = some format ∧
      Settings.Call setting w artifact call ∧ Settings.Signer setting w.environment signer ∧
      setting "submission" "wait_for_inclusion" = some inclusion ∧
      setting "submission" "wait_for_finalization" = some finalization ∧
      fields <+: [.isSuccess, .errorMessage, .triggeredEvents] ∧
      ((deploy outer path).run w n).trace.filter Event.isCall =
        [.connect url format, .request "system_chain", .request "system_name",
          .request "system_version", .close, .connect url format, .compose call, .sign signer,
          .submit inclusion finalization] ++ fields.map .read ++ [.close] := by
  intro setting
  obtain ⟨p, q, t, fields, hp, hbuilds, ht, hsame, hfields, hcalls⟩ := exists_calls_of_submit hsubmit
  have hholds := Config.holds_load hp.config
  have hclient := hp.client
  simp only [Client.ofConfig, bind_eq_ok_iff, pure_eq_ok_iff] at hclient
  obtain ⟨node, hnode, url, hurl, node', hnode', format, hformat, hclient⟩ := hclient
  obtain ⟨submission, hsubmission, hd⟩ := hp.deployer_eq
  rw [hd] at ht hbuilds
  obtain ⟨name, hsigner⟩ := ht.signer
  obtain rfl : p.artifact = artifact :=
    Option.some.inj ((hholds.effective_of_field hp.program hp.artifact).symm.trans hartifact)
  refine ⟨url, format, _, t.signer, t.inclusion, t.finalization, fields,
    hholds.effective_of_field hnode hurl,
    hholds.effective_of_field hnode' hformat,
    hholds.call_of_terms hp.program hp.loads.read hp.resolves hbuilds ht,
    hholds.signer_of_derive hsigner,
    hholds.effective_of_field hsubmission ht.inclusion,
    hholds.effective_of_field hsubmission ht.finalization,
    hfields, ?_⟩
  rw [hcalls, Terms.calls, hsame, ← hclient]
  simp [Client.infoSession, Client.infoMethods]

theorem submits_sample :
    Config.effective Sample.world.environment (Config.documentAt Sample.world levels Sample.configPath)
      "program" "wasm_path" = some (.text "dex.wasm") ∧
    .submit (.bool true) (.bool false) ∈ ((deploy 0 Sample.configPath).run Sample.world 0).trace ∧
    ∃ url format call signer inclusion finalization fields,
      call.code = Hex.marked [0] ∧ call.gasLimit = .int 5 ∧ call.value = .int 1000 ∧
      fields <+: [.isSuccess, .errorMessage, .triggeredEvents] ∧
      ((deploy 0 Sample.configPath).run Sample.world 0).trace.filter Event.isCall =
        [.connect url format, .request "system_chain", .request "system_name",
          .request "system_version", .close, .connect url format, .compose call, .sign signer,
          .submit inclusion finalization] ++ fields.map .read ++ [.close] := by
  have hartifact :
      Config.effective Sample.world.environment (Config.documentAt Sample.world levels Sample.configPath)
        "program" "wasm_path" = some (.text "dex.wasm") := by
    rw [Sample.documentAt_configPath]
    rfl
  have hsubmit := Sample.submit_mem_deploy
  obtain ⟨url, format, call, signer, inclusion, finalization, fields, -, -, hcall, -, -, -, hfields,
    hcalls⟩ :=
    @submits_what_is_configured 0 Sample.configPath Sample.world 0 _ _ _ hartifact hsubmit
  obtain ⟨bs, hbs, hcode⟩ := hcall.code
  cases hbs
  have hgas := hcall.gasLimit.1
  have hvalue := hcall.value.1
  rw [Nat.zero_add, Sample.documentAt_configPath] at hgas hvalue
  exact ⟨hartifact, hsubmit, url, format, call, signer, inclusion, finalization, fields, hcode,
    (Option.some.inj hgas).symm, (Option.some.inj hvalue).symm, hfields, hcalls⟩

end Run

end ProgramDeploy

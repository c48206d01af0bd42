import Mathlib.Data.UInt

namespace MonomythClient.OpcodeReference

/-!
# The RoF2 opcode table

The program's own names for packet opcodes.  The source declares 529 rows and
initializes 528, so the last row is the value-initialized one.
-/

/-- One row of the table. -/
structure OpcodeNameEntry where
  opcode : UInt32
  name : String
  deriving Repr, DecidableEq

/-- `kRof2OpcodeNames`. -/
def kRof2OpcodeNames : List OpcodeNameEntry := [
  ⟨0x000f, "OP_RestState"⟩,
  ⟨0x0026, "OP_UpdateLeadershipAA"⟩,
  ⟨0x004c, "OP_SkillUpdate"⟩,
  ⟨0x0083, "OP_SpecialMesg"⟩,
  ⟨0x009f, "OP_SetRunMode"⟩,
  ⟨0x00d2, "OP_SendCharInfo"⟩,
  ⟨0x0119, "OP_SharedTaskMemberChange"⟩,
  ⟨0x0159, "OP_PetCommands"⟩,
  ⟨0x01b8, "OP_DeleteCharge"⟩,
  ⟨0x01f9, "OP_GuildMemberPublicNote"⟩,
  ⟨0x023b, "OP_ItemAdvancedLoreText"⟩,
  ⟨0x0272, "OP_TargetHoTT"⟩,
  ⟨0x0276, "OP_GuildOpenGuildWindow"⟩,
  ⟨0x02af, "OP_SenseTraps"⟩,
  ⟨0x02cf, "OP_GroupLeadershipAAUpdate"⟩,
  ⟨0x0339, "OP_AltCurrencyReclaim"⟩,
  ⟨0x0340, "OP_LFGGetMatchesRequest"⟩,
  ⟨0x035f, "OP_GMNameChange"⟩,
  ⟨0x0386, "OP_Bind_Wound"⟩,
  ⟨0x0423, "OP_Surname"⟩,
  ⟨0x0438, "OP_LDoNInspect"⟩,
  ⟨0x046d, "OP_InvokeChangePetNameImmediate"⟩,
  ⟨0x048c, "OP_InterruptCast"⟩,
  ⟨0x04aa, "OP_PVPLeaderBoardRequest"⟩,
  ⟨0x053c, "OP_Untargetable"⟩,
  ⟨0x057b, "OP_SendMembershipDetails"⟩,
  ⟨0x071f, "OP_PVPLeaderBoardReply"⟩,
  ⟨0x0727, "OP_GuildOptInOut"⟩,
  ⟨0x073d, "OP_TributeTimer"⟩,
  ⟨0x075d, "OP_TargetMouse"⟩,
  ⟨0x0763, "OP_MercenaryTimer"⟩,
  ⟨0x0876, "OP_TGB"⟩,
  ⟨0x08a6, "OP_PopupResponse"⟩,
  ⟨0x08c1, "OP_GMServers"⟩,
  ⟨0x08d3, "OP_TaskActivity"⟩,
  ⟨0x08d8, "OP_ZonePlayerToBind"⟩,
  ⟨0x08e8, "OP_MoveDoor"⟩,
  ⟨0x0904, "OP_CorpseDrag"⟩,
  ⟨0x0927, "OP_CancelSneakHide"⟩,
  ⟨0x0971, "OP_SpawnAppearance"⟩,
  ⟨0x097b, "OP_ItemVerifyReply"⟩,
  ⟨0x0a23, "OP_AcceptNewTask"⟩,
  ⟨0x0adf, "OP_LootRequest"⟩,
  ⟨0x0ae7, "OP_ControlBoat"⟩,
  ⟨0x0afb, "OP_AugmentInfo"⟩,
  ⟨0x0b0b, "OP_SetGuildMOTD"⟩,
  ⟨0x0b7d, "OP_DzChooseZone"⟩,
  ⟨0x0b9c, "OP_SetGuildRank"⟩,
  ⟨0x0bcf, "OP_MoveCoin"⟩,
  ⟨0x0c1e, "OP_ClickObjectAction"⟩,
  ⟨0x0c22, "OP_MOTD"⟩,
  ⟨0x0d32, "OP_NewTitlesAvailable"⟩,
  ⟨0x0ddd, "OP_ShopPlayerBuy"⟩,
  ⟨0x0de7, "OP_RemoveBlockedBuffs"⟩,
  ⟨0x0ecb, "OP_RespawnWindow"⟩,
  ⟨0x0ecf, "OP_Mend"⟩,
  ⟨0x0efa, "OP_SwapSpell"⟩,
  ⟨0x0f13, "OP_World_Client_CRC1"⟩,
  ⟨0x0f50, "OP_ClearAA"⟩,
  ⟨0x0f6c, "OP_GroupDelete"⟩,
  ⟨0x100e, "OP_CustomTitles"⟩,
  ⟨0x1024, "OP_FormattedMessage"⟩,
  ⟨0x106b, "OP_RandomReply"⟩,
  ⟨0x109d, "OP_AutoAttack"⟩,
  ⟨0x1126, "OP_VetClaimRequest"⟩,
  ⟨0x11c1, "OP_MercenaryDataRequest"⟩,
  ⟨0x1219, "OP_KeyRing"⟩,
  ⟨0x127f, "OP_CameraEffect"⟩,
  ⟨0x1287, "OP_CastSpell"⟩,
  ⟨0x12a6, "OP_GuildMemberList"⟩,
  ⟨0x12f5, "OP_DzMemberListStatus"⟩,
  ⟨0x1338, "OP_ServerAuthStats"⟩,
  ⟨0x1444, "OP_GuildRemove"⟩,
  ⟨0x1456, "OP_UpdateAura"⟩,
  ⟨0x14bf, "OP_TradeRequestAck"⟩,
  ⟨0x14c6, "OP_DzPlayerList"⟩,
  ⟨0x15a9, "OP_ItemRecastDelay"⟩,
  ⟨0x1619, "OP_LinkedReuse"⟩,
  ⟨0x1643, "OP_AggroMeterLockTarget"⟩,
  ⟨0x1649, "OP_GroupFollow"⟩,
  ⟨0x1669, "OP_ResetAA"⟩,
  ⟨0x16bc, "OP_AggroMeterTargetInfo"⟩,
  ⟨0x16d4, "OP_VetClaimReply"⟩,
  ⟨0x1745, "OP_Rewind"⟩,
  ⟨0x1781, "OP_AggroMeterUpdate"⟩,
  ⟨0x1795, "OP_NewZone"⟩,
  ⟨0x17e5, "OP_Track"⟩,
  ⟨0x17fd, "OP_VoiceMacroIn"⟩,
  ⟨0x1808, "OP_DeleteCharacter"⟩,
  ⟨0x1821, "OP_Sacrifice"⟩,
  ⟨0x1877, "OP_SendGuildTributes"⟩,
  ⟨0x189c, "OP_ItemVerifyRequest"⟩,
  ⟨0x18ad, "OP_DeleteItem"⟩,
  ⟨0x1950, "OP_DzExpeditionInviteResponse"⟩,
  ⟨0x1966, "OP_GMTraining"⟩,
  ⟨0x1a30, "OP_Sound"⟩,
  ⟨0x1a3e, "OP_PotionBelt"⟩,
  ⟨0x1a6a, "OP_BuyerItems"⟩,
  ⟨0x1abc, "OP_DzRemovePlayer"⟩,
  ⟨0x1ae5, "OP_GroupDisbandYou"⟩,
  ⟨0x1af3, "OP_SetFace"⟩,
  ⟨0x1b01, "OP_AdventureUpdate"⟩,
  ⟨0x1b37, "OP_MercenarySwitch"⟩,
  ⟨0x1bc5, "OP_SetChatServer"⟩,
  ⟨0x1bd3, "OP_GuildMemberLevel"⟩,
  ⟨0x1c81, "OP_MobEnduranceUpdate"⟩,
  ⟨0x1cfd, "OP_GMEmoteZone"⟩,
  ⟨0x1db6, "OP_RecipeReply"⟩,
  ⟨0x1dc8, "OP_PetCommandState"⟩,
  ⟨0x1e2a, "OP_Fishing"⟩,
  ⟨0x1e7d, "OP_SharedTaskMemberList"⟩,
  ⟨0x1eec, "OP_LevelUpdate"⟩,
  ⟨0x1fb5, "OP_MarkNPC"⟩,
  ⟨0x1fd1, "OP_Consent"⟩,
  ⟨0x1ffb, "OP_GuildWar"⟩,
  ⟨0x2003, "OP_ClearNPCMarks"⟩,
  ⟨0x205f, "OP_DzExpeditionLockoutTimers"⟩,
  ⟨0x2060, "OP_GroupFollow2"⟩,
  ⟨0x2097, "OP_GMToggle"⟩,
  ⟨0x20ae, "OP_GuildTributeToggleReply"⟩,
  ⟨0x20d3, "OP_RaidClearNPCMarks"⟩,
  ⟨0x20ed, "OP_ExpUpdate"⟩,
  ⟨0x213f, "OP_SimpleMessage"⟩,
  ⟨0x217c, "OP_MemorizeSpell"⟩,
  ⟨0x21b4, "OP_GroupLeaderChange"⟩,
  ⟨0x2219, "OP_SafeFallSuccess"⟩,
  ⟨0x22c6, "OP_LFPGetMatchesResponse"⟩,
  ⟨0x2301, "OP_WorldUnknown001"⟩,
  ⟨0x2370, "OP_AdventureStatsReply"⟩,
  ⟨0x2382, "OP_DenyResponse"⟩,
  ⟨0x23b9, "OP_Dye"⟩,
  ⟨0x23c1, "OP_WorldClientReady"⟩,
  ⟨0x2404, "OP_MobManaUpdate"⟩,
  ⟨0x241d, "OP_TributeToggle"⟩,
  ⟨0x241e, "OP_AutoFire"⟩,
  ⟨0x2439, "OP_CrystalReclaim"⟩,
  ⟨0x243a, "OP_Barter"⟩,
  ⟨0x25b7, "OP_PVPLeaderBoardDetailsReply"⟩,
  ⟨0x260a, "OP_SenseHeading"⟩,
  ⟨0x261d, "OP_LoadSpellSet"⟩,
  ⟨0x26a7, "OP_GMKick"⟩,
  ⟨0x2703, "OP_Taunt"⟩,
  ⟨0x2797, "OP_LeadershipExpUpdate"⟩,
  ⟨0x27a0, "OP_MercenaryUnsuspendResponse"⟩,
  ⟨0x27a2, "OP_AltCurrencyMerchantReply"⟩,
  ⟨0x27f2, "OP_MercenaryCommand"⟩,
  ⟨0x27f8, "OP_AssistGroup"⟩,
  ⟨0x2814, "OP_SetGroupTarget"⟩,
  ⟨0x2828, "OP_HPUpdate"⟩,
  ⟨0x28ec, "OP_Camp"⟩,
  ⟨0x2925, "OP_GuildMemberAdd"⟩,
  ⟨0x2958, "OP_GuildUpdate"⟩,
  ⟨0x298d, "OP_World_Client_CRC3"⟩,
  ⟨0x2a50, "OP_CancelInvite"⟩,
  ⟨0x2a79, "OP_Stamina"⟩,
  ⟨0x2a85, "OP_GMTrainSkill"⟩,
  ⟨0x2b0f, "OP_TaskTimers"⟩,
  ⟨0x2b2d, "OP_ChannelMessage"⟩,
  ⟨0x2b33, "OP_RaidDelegateAbility"⟩,
  ⟨0x2c57, "OP_MobRename"⟩,
  ⟨0x2c6c, "OP_AdventureRequest"⟩,
  ⟨0x2c84, "OP_MobUpdate"⟩,
  ⟨0x2d08, "OP_SendTitleList"⟩,
  ⟨0x2d18, "OP_ZoneChange"⟩,
  ⟨0x2d25, "OP_PlayerStateRemove"⟩,
  ⟨0x2d4e, "OP_GuildDemote"⟩,
  ⟨0x2eb3, "OP_UnderWorld"⟩,
  ⟨0x2f2e, "OP_InvokeNameChangeLazy"⟩,
  ⟨0x2f9b, "OP_AdventureMerchantSell"⟩,
  ⟨0x2fab, "OP_GMHideMe"⟩,
  ⟨0x3033, "OP_BlockedBuffs"⟩,
  ⟨0x30a8, "OP_ShopEnd"⟩,
  ⟨0x30f7, "OP_EndLootRequest"⟩,
  ⟨0x312a, "OP_Illusion"⟩,
  ⟨0x3141, "OP_GuildMemberDelete"⟩,
  ⟨0x3165, "OP_LFGuild"⟩,
  ⟨0x318f, "OP_BeginCast"⟩,
  ⟨0x3196, "OP_ShopEndConfirm"⟩,
  ⟨0x31df, "OP_TraderShop"⟩,
  ⟨0x31e4, "OP_MercenaryTimerRequest"⟩,
  ⟨0x31e6, "OP_ApplyPoison"⟩,
  ⟨0x31f4, "OP_Jump"⟩,
  ⟨0x322e, "OP_SharedTaskQuit"⟩,
  ⟨0x32c2, "OP_GroupInvite2"⟩,
  ⟨0x32ee, "OP_MoveItem"⟩,
  ⟨0x32f0, "OP_DzMemberListName"⟩,
  ⟨0x3342, "OP_GroupMentor"⟩,
  ⟨0x3358, "OP_DeleteSpell"⟩,
  ⟨0x3377, "OP_BuffCreate"⟩,
  ⟨0x3444, "OP_SharedTaskInvite"⟩,
  ⟨0x345d, "OP_ClientReady"⟩,
  ⟨0x34a7, "OP_WeaponEquip1"⟩,
  ⟨0x34cb, "OP_ClearBlockedBuffs"⟩,
  ⟨0x34cd, "OP_GuildModifyBenefits"⟩,
  ⟨0x3526, "OP_AutoAttack2"⟩,
  ⟨0x354c, "OP_CancelTrade"⟩,
  ⟨0x357c, "OP_GMSearchCorpse"⟩,
  ⟨0x35fa, "OP_ReqClientSpawn"⟩,
  ⟨0x368e, "OP_ItemPacket"⟩,
  ⟨0x36a4, "OP_Stun"⟩,
  ⟨0x36e0, "OP_GetGuildMOTD"⟩,
  ⟨0x36e8, "OP_AvaliableTask"⟩,
  ⟨0x3707, "OP_PVPLeaderBoardDetailsRequest"⟩,
  ⟨0x3708, "OP_GuildDelete"⟩,
  ⟨0x3714, "OP_TaskDescription"⟩,
  ⟨0x373b, "OP_Emote"⟩,
  ⟨0x3763, "OP_XTargetRequest"⟩,
  ⟨0x3771, "OP_GuildSendActiveTributes"⟩,
  ⟨0x3788, "OP_AltCurrencyPurchase"⟩,
  ⟨0x3791, "OP_ManaUpdate"⟩,
  ⟨0x37b1, "OP_MobHealth"⟩,
  ⟨0x37f2, "OP_SharedTaskMakeLeader"⟩,
  ⟨0x384a, "OP_ConsentResponse"⟩,
  ⟨0x3956, "OP_FriendsWho"⟩,
  ⟨0x3973, "OP_RaidUpdate"⟩,
  ⟨0x398f, "OP_QueryUCSServerStatus"⟩,
  ⟨0x3993, "OP_FinishTrade"⟩,
  ⟨0x39d6, "OP_BazaarSearch"⟩,
  ⟨0x39e8, "OP_PickPocket"⟩,
  ⟨0x39f0, "OP_CancelTask"⟩,
  ⟨0x3a54, "OP_Split"⟩,
  ⟨0x3a5d, "OP_ShopSendParcel"⟩,
  ⟨0x3a8f, "OP_ClickDoor"⟩,
  ⟨0x3abb, "OP_GroupUpdate"⟩,
  ⟨0x3ae1, "OP_GMBecomeNPC"⟩,
  ⟨0x3af1, "OP_RequestDuel"⟩,
  ⟨0x3b26, "OP_GuildMemberRename"⟩,
  ⟨0x3bc9, "OP_LevelAppearance"⟩,
  ⟨0x3c21, "OP_RezzRequest"⟩,
  ⟨0x3cb0, "OP_AdventureInfoRequest"⟩,
  ⟨0x3d05, "OP_TaskHistoryReply"⟩,
  ⟨0x3d5c, "OP_LDoNOpen"⟩,
  ⟨0x3de3, "OP_Petition"⟩,
  ⟨0x3de9, "OP_DzSetLeaderName"⟩,
  ⟨0x3e0e, "OP_DzCompass"⟩,
  ⟨0x3e13, "OP_GuildMOTD"⟩,
  ⟨0x3e47, "OP_AdventureMerchantResponse"⟩,
  ⟨0x3eba, "OP_CombatAbility"⟩,
  ⟨0x3ef8, "OP_XTargetOpenResponse"⟩,
  ⟨0x3f35, "OP_GuildManageBanker"⟩,
  ⟨0x3fb0, "OP_ClearSurname"⟩,
  ⟨0x3fcf, "OP_RequestClientZoneChange"⟩,
  ⟨0x400f, "OP_AdventureFinish"⟩,
  ⟨0x405b, "OP_DzSwapPlayer"⟩,
  ⟨0x409a, "OP_VoiceMacroOut"⟩,
  ⟨0x40b6, "OP_AltCurrencySell"⟩,
  ⟨0x40d7, "OP_RecipeAutoCombine"⟩,
  ⟨0x40ef, "OP_FinishWindow2"⟩,
  ⟨0x4206, "OP_TradeCoins"⟩,
  ⟨0x4211, "OP_BoardBoat"⟩,
  ⟨0x4229, "OP_GroupMakeLeader"⟩,
  ⟨0x424e, "OP_AAAction"⟩,
  ⟨0x4254, "OP_TributeInfo"⟩,
  ⟨0x43a3, "OP_ConfirmDelete"⟩,
  ⟨0x43af, "OP_ColoredText"⟩,
  ⟨0x43c8, "OP_SendAAStats"⟩,
  ⟨0x43d2, "OP_GuildTributeDonatePlat"⟩,
  ⟨0x4407, "OP_MercenarySuspendRequest"⟩,
  ⟨0x444d, "OP_SetServerFilter"⟩,
  ⟨0x4478, "OP_Assist"⟩,
  ⟨0x4493, "OP_WorldComplete"⟩,
  ⟨0x4506, "OP_InvokeChangePetName"⟩,
  ⟨0x4577, "OP_TrackUnknown"⟩,
  ⟨0x458e, "OP_GMEmoteWorld"⟩,
  ⟨0x4613, "OP_SendFindableNPCs"⟩,
  ⟨0x465b, "OP_ItemViewUnknown"⟩,
  ⟨0x467f, "OP_CrystalCountUpdate"⟩,
  ⟨0x46c6, "OP_FloatListThing"⟩,
  ⟨0x46ce, "OP_GMLastName"⟩,
  ⟨0x46f0, "OP_ShopParcelIcon"⟩,
  ⟨0x4701, "OP_DzAddPlayer"⟩,
  ⟨0x4707, "OP_ChangeSize"⟩,
  ⟨0x471d, "OP_AckPacket"⟩,
  ⟨0x47f1, "OP_ShopDeleteParcel"⟩,
  ⟨0x4865, "OP_SharedTaskRemovePlayer"⟩,
  ⟨0x486c, "OP_InspectBuffs"⟩,
  ⟨0x486f, "OP_GMSummon"⟩,
  ⟨0x48a2, "OP_SharedTaskSelectWindow"⟩,
  ⟨0x49a9, "OP_LFPCommand"⟩,
  ⟨0x49e1, "OP_HideCorpse"⟩,
  ⟨0x49ea, "OP_OpenGuildTributeMaster"⟩,
  ⟨0x4a39, "OP_Save"⟩,
  ⟨0x4a8f, "OP_GMFind"⟩,
  ⟨0x4aa1, "OP_ClickObject"⟩,
  ⟨0x4ac6, "OP_Logout"⟩,
  ⟨0x4b15, "OP_PVPStats"⟩,
  ⟨0x4b64, "OP_GMTrainSkillConfirm"⟩,
  ⟨0x4b70, "OP_Consume"⟩,
  ⟨0x4b8d, "OP_World_Client_CRC2"⟩,
  ⟨0x4c10, "OP_GroupDisband"⟩,
  ⟨0x4c21, "OP_SetTitleReply"⟩,
  ⟨0x4c44, "OP_ZoneServerInfo"⟩,
  ⟨0x4c54, "OP_AdventureInfo"⟩,
  ⟨0x4cb4, "OP_ZoneUnavail"⟩,
  ⟨0x4cef, "OP_ItemLinkClick"⟩,
  ⟨0x4d25, "OP_InspectMessageUpdate"⟩,
  ⟨0x4d59, "OP_XTargetResponse"⟩,
  ⟨0x4d5e, "OP_RequestGuildTributes"⟩,
  ⟨0x4d6b, "OP_GMEndTraining"⟩,
  ⟨0x4d7d, "OP_LFPGetMatchesRequest"⟩,
  ⟨0x4dc9, "OP_LootItem"⟩,
  ⟨0x4de1, "OP_DzChooseZoneReply"⟩,
  ⟨0x4e56, "OP_YellForHelp"⟩,
  ⟨0x4eba, "OP_CompletedTasks"⟩,
  ⟨0x4ef5, "OP_Trader"⟩,
  ⟨0x4f1f, "OP_GetGuildMOTDReply"⟩,
  ⟨0x4f3e, "OP_TributeItem"⟩,
  ⟨0x4f4b, "OP_TargetBuffs"⟩,
  ⟨0x4f7e, "OP_TradeSkillRecipeInspect"⟩,
  ⟨0x4fe2, "OP_InvokeNameChangeImmediate"⟩,
  ⟨0x4fed, "OP_ShopRequest"⟩,
  ⟨0x502e, "OP_Marquee"⟩,
  ⟨0x5048, "OP_LFGGetMatchesResponse"⟩,
  ⟨0x5053, "OP_GuildPublicNote"⟩,
  ⟨0x5070, "OP_TimeOfDay"⟩,
  ⟨0x507a, "OP_GuildsList"⟩,
  ⟨0x5089, "OP_ZoneEntry"⟩,
  ⟨0x5134, "OP_GuildBank"⟩,
  ⟨0x5189, "OP_DzExpeditionEndsWarning"⟩,
  ⟨0x51d3, "OP_GMKill"⟩,
  ⟨0x51fd, "OP_EnvDamage"⟩,
  ⟨0x5204, "OP_ConsiderCorpse"⟩,
  ⟨0x5237, "OP_ZoneSpawns"⟩,
  ⟨0x52e5, "OP_Shielding"⟩,
  ⟨0x52fa, "OP_FeignDeath"⟩,
  ⟨0x5300, "OP_TributePointUpdate"⟩,
  ⟨0x5306, "OP_Forage"⟩,
  ⟨0x5327, "OP_LDoNButton"⟩,
  ⟨0x532a, "OP_AltCurrencySellSelection"⟩,
  ⟨0x5409, "OP_AltCurrencyMerchantRequest"⟩,
  ⟨0x543d, "OP_DzMakeLeader"⟩,
  ⟨0x5467, "OP_ManaChange"⟩,
  ⟨0x5475, "OP_SendMaxCharacters"⟩,
  ⟨0x5505, "OP_TradeBusy"⟩,
  ⟨0x5578, "OP_FaceChange"⟩,
  ⟨0x559a, "OP_PlayerStateAdd"⟩,
  ⟨0x55ac, "OP_RaidInvite"⟩,
  ⟨0x55c4, "OP_LootComplete"⟩,
  ⟨0x5602, "OP_Feedback"⟩,
  ⟨0x5623, "OP_MoveMultipleItems"⟩,
  ⟨0x5648, "OP_AdventureDetails"⟩,
  ⟨0x56a2, "OP_ApproveName"⟩,
  ⟨0x5727, "OP_SharedTaskPlayerList"⟩,
  ⟨0x575b, "OP_OnLevelMessage"⟩,
  ⟨0x5770, "OP_PlayMP3"⟩,
  ⟨0x578c, "OP_WhoAllResponse"⟩,
  ⟨0x578f, "OP_EnterWorld"⟩,
  ⟨0x579a, "OP_TradeSkillCombine"⟩,
  ⟨0x57bc, "OP_InspectRequest"⟩,
  ⟨0x5829, "OP_TraderDelItem"⟩,
  ⟨0x5882, "OP_PetBuffWindow"⟩,
  ⟨0x5892, "OP_NPCMoveUpdate"⟩,
  ⟨0x58e2, "OP_TargetCommand"⟩,
  ⟨0x58fb, "OP_TributeMoney"⟩,
  ⟨0x590d, "OP_ExpansionInfo"⟩,
  ⟨0x590e, "OP_VetRewardsAvaliable"⟩,
  ⟨0x5936, "OP_SpellEffect"⟩,
  ⟨0x5954, "OP_RandomNameGenerator"⟩,
  ⟨0x5961, "OP_TributeUpdate"⟩,
  ⟨0x5a58, "OP_MarkRaidNPC"⟩,
  ⟨0x5a62, "OP_AdventureStatsRequest"⟩,
  ⟨0x5ae2, "OP_WorldObjectsSent"⟩,
  ⟨0x5ae4, "OP_DzMemberList"⟩,
  ⟨0x5b72, "OP_AdventureMerchantPurchase"⟩,
  ⟨0x5bcb, "OP_GuildTributeDonateItem"⟩,
  ⟨0x5ca6, "OP_CharInventory"⟩,
  ⟨0x5cea, "OP_FindPersonRequest"⟩,
  ⟨0x5d18, "OP_LeaveAdventure"⟩,
  ⟨0x5d26, "OP_MercenaryUnknown1"⟩,
  ⟨0x5d55, "OP_Sneak"⟩,
  ⟨0x5d92, "OP_Charm"⟩,
  ⟨0x5dab, "OP_ChangePetName"⟩,
  ⟨0x5e19, "OP_TaskActivityComplete"⟩,
  ⟨0x5ec8, "OP_Disarm"⟩,
  ⟨0x5f1c, "OP_TaskHistoryRequest"⟩,
  ⟨0x5f3f, "OP_GuildSaveActiveTributes"⟩,
  ⟨0x5f42, "OP_EnduranceUpdate"⟩,
  ⟨0x5f44, "OP_MoneyOnCorpse"⟩,
  ⟨0x5f7a, "OP_CashReward"⟩,
  ⟨0x5f8e, "OP_SendExpZonein"⟩,
  ⟨0x600d, "OP_SaveOnZoneReq"⟩,
  ⟨0x6060, "OP_LFGCommand"⟩,
  ⟨0x607e, "OP_GMDelCorpse"⟩,
  ⟨0x6097, "OP_NewSpawn"⟩,
  ⟨0x6110, "OP_GroupInvite"⟩,
  ⟨0x6146, "OP_BookButton"⟩,
  ⟨0x6194, "OP_GroupUpdateB"⟩,
  ⟨0x61a4, "OP_MercenaryDataUpdate"⟩,
  ⟨0x61b3, "OP_BecomeTrader"⟩,
  ⟨0x61db, "OP_GuildRenameGuild"⟩,
  ⟨0x61df, "OP_XTargetOpen"⟩,
  ⟨0x6259, "OP_PostEnterWorld"⟩,
  ⟨0x6290, "OP_RecipesSearch"⟩,
  ⟨0x62ac, "OP_GMZoneRequest"⟩,
  ⟨0x6326, "OP_SetStartCity"⟩,
  ⟨0x6344, "OP_RequestTitles"⟩,
  ⟨0x640c, "OP_MoneyUpdate"⟩,
  ⟨0x640e, "OP_InstillDoubt"⟩,
  ⟨0x649f, "OP_GuildSelectTribute"⟩,
  ⟨0x64f2, "OP_BuffRemoveRequest"⟩,
  ⟨0x6506, "OP_PlayerProfile"⟩,
  ⟨0x6517, "OP_Death"⟩,
  ⟨0x6527, "OP_SetTitle"⟩,
  ⟨0x6580, "OP_Translocate"⟩,
  ⟨0x659c, "OP_Buff"⟩,
  ⟨0x65c3, "OP_AdventurePointsUpdate"⟩,
  ⟨0x661b, "OP_AugmentItem"⟩,
  ⟨0x661e, "OP_Weather"⟩,
  ⟨0x6646, "OP_SharedTaskAcceptNew"⟩,
  ⟨0x66b5, "OP_SendAATable"⟩,
  ⟨0x66f0, "OP_UpdateAA"⟩,
  ⟨0x6703, "OP_Begging"⟩,
  ⟨0x672f, "OP_XTargetAutoAddHaters"⟩,
  ⟨0x674b, "OP_WhoAllRequest"⟩,
  ⟨0x6770, "OP_KickPlayers"⟩,
  ⟨0x6773, "OP_CharacterCreateRequest"⟩,
  ⟨0x67e3, "OP_GuildPeace"⟩,
  ⟨0x67fe, "OP_Hide"⟩,
  ⟨0x68c2, "OP_TradeMoneyUpdate"⟩,
  ⟨0x68d3, "OP_DuelAccept"⟩,
  ⟨0x6922, "OP_AdventureMerchantRequest"⟩,
  ⟨0x695e, "OP_TrackTarget"⟩,
  ⟨0x6989, "OP_DisciplineTimer"⟩,
  ⟨0x69a4, "OP_SendZonepoints"⟩,
  ⟨0x69b9, "OP_GuildMemberUpdate"⟩,
  ⟨0x69e2, "OP_TradeAcceptClick"⟩,
  ⟨0x6a46, "OP_DuelDecline"⟩,
  ⟨0x6a96, "OP_TraderBulkSend"⟩,
  ⟨0x6a98, "OP_GuildPromote"⟩,
  ⟨0x6b5c, "OP_ItemPreview"⟩,
  ⟨0x6b6d, "OP_AltCurrency"⟩,
  ⟨0x6bbf, "OP_CharacterCreate"⟩,
  ⟨0x6c55, "OP_PurchaseLeadershipAA"⟩,
  ⟨0x6da5, "OP_ClearLeadershipAbilities"⟩,
  ⟨0x6dab, "OP_GuildDeleteGuild"⟩,
  ⟨0x6db5, "OP_GMApproval"⟩,
  ⟨0x6e02, "OP_RecipeDetails"⟩,
  ⟨0x6e83, "OP_MercenaryDismiss"⟩,
  ⟨0x6eae, "OP_DoGroupLeadershipAbility"⟩,
  ⟨0x6f03, "OP_MercenarySuspendResponse"⟩,
  ⟨0x6f14, "OP_Report"⟩,
  ⟨0x6f15, "OP_Damage"⟩,
  ⟨0x6f4b, "OP_Weblink"⟩,
  ⟨0x6f80, "OP_Fling"⟩,
  ⟨0x6fca, "OP_GroundSpawn"⟩,
  ⟨0x700c, "OP_RemoveAllDoors"⟩,
  ⟨0x7013, "OP_ShopRetrieveParcel"⟩,
  ⟨0x701c, "OP_RezzAnswer"⟩,
  ⟨0x7037, "OP_CorpseDrop"⟩,
  ⟨0x7053, "OP_GuildInviteAccept"⟩,
  ⟨0x705b, "OP_TaskSelectWindow"⟩,
  ⟨0x7093, "OP_AdventureLeaderboardRequest"⟩,
  ⟨0x7099, "OP_GuildInvite"⟩,
  ⟨0x70a3, "OP_IncreaseStats"⟩,
  ⟨0x70c0, "OP_ItemLinkResponse"⟩,
  ⟨0x70e2, "OP_GroupRoles"⟩,
  ⟨0x7169, "OP_MercenaryHire"⟩,
  ⟨0x7171, "OP_AdventureData"⟩,
  ⟨0x7177, "OP_Animation"⟩,
  ⟨0x71ac, "OP_InspectAnswer"⟩,
  ⟨0x71b1, "OP_RecipesFavorite"⟩,
  ⟨0x71da, "OP_RemoveTrap"⟩,
  ⟨0x724f, "OP_ShopDelItem"⟩,
  ⟨0x7280, "OP_DeleteSpawn"⟩,
  ⟨0x7291, "OP_SpawnDoor"⟩,
  ⟨0x729b, "OP_SendTributes"⟩,
  ⟨0x72ce, "OP_MercenaryDataResponse"⟩,
  ⟨0x72d8, "OP_PickZoneWindow"⟩,
  ⟨0x72df, "OP_ReadBook"⟩,
  ⟨0x7323, "OP_GroupAcknowledge"⟩,
  ⟨0x7326, "OP_GuildStatus"⟩,
  ⟨0x7349, "OP_FinishWindow"⟩,
  ⟨0x73f4, "OP_Bug"⟩,
  ⟨0x742b, "OP_Consider"⟩,
  ⟨0x744c, "OP_Action"⟩,
  ⟨0x747c, "OP_SomeItemPacketMaybe"⟩,
  ⟨0x7499, "OP_ApproveWorld"⟩,
  ⟨0x74bd, "OP_LeadershipExpToggle"⟩,
  ⟨0x74da, "OP_GroupDisbandOther"⟩,
  ⟨0x7582, "OP_SharedTaskInviteResponse"⟩,
  ⟨0x759e, "OP_DisciplineUpdate"⟩,
  ⟨0x760d, "OP_RezzComplete"⟩,
  ⟨0x7617, "OP_LeaveBoat"⟩,
  ⟨0x7666, "OP_OpenTributeMaster"⟩,
  ⟨0x7677, "OP_Bandolier"⟩,
  ⟨0x76b8, "OP_DelegateAbility"⟩,
  ⟨0x76d9, "OP_GuildCreate"⟩,
  ⟨0x7745, "OP_GuildTributeToggleReq"⟩,
  ⟨0x77b5, "OP_TradeRequest"⟩,
  ⟨0x7850, "OP_GuildBankItemList"⟩,
  ⟨0x7887, "OP_ReqNewZone"⟩,
  ⟨0x78bf, "OP_DisarmTraps"⟩,
  ⟨0x791b, "OP_ShopPlayerSell"⟩,
  ⟨0x791e, "OP_BankerChange"⟩,
  ⟨0x794a, "OP_PetHoTT"⟩,
  ⟨0x7994, "OP_WearChange"⟩,
  ⟨0x79fc, "OP_SelectTribute"⟩,
  ⟨0x7a09, "OP_SendLoginInfo"⟩,
  ⟨0x7a11, "OP_ClearObject"⟩,
  ⟨0x7a27, "OP_RespondAA"⟩,
  ⟨0x7a45, "OP_ConsentDeny"⟩,
  ⟨0x7a48, "OP_TaskRequestTimer"⟩,
  ⟨0x7acc, "OP_SendMembership"⟩,
  ⟨0x7aee, "OP_CrystalCreate"⟩,
  ⟨0x7b10, "OP_RandomReq"⟩,
  ⟨0x7b1e, "OP_RemoveNimbusEffect"⟩,
  ⟨0x7b68, "OP_DzListTimers"⟩,
  ⟨0x7b89, "OP_MercenaryDataUpdateRequest"⟩,
  ⟨0x7cb8, "OP_TestBuff"⟩,
  ⟨0x7ceb, "OP_LogServer"⟩,
  ⟨0x7cfb, "OP_EvolveItem"⟩,
  ⟨0x7d14, "OP_AAExpUpdate"⟩,
  ⟨0x7d8e, "OP_GMGoto"⟩,
  ⟨0x7dfc, "OP_ClientUpdate"⟩,
  ⟨0x7e09, "OP_GuildLeader"⟩,
  ⟨0x7e1a, "OP_GMZoneRequest2"⟩,
  ⟨0x7e58, "OP_FindPersonReply"⟩,
  ⟨0x7eec, "OP_SetChatServer2"⟩,
  ⟨0x7f4b, "OP_DzExpeditionInvite"⟩,
  ⟨0x7f79, "OP_AdventureLeaderboardReply"⟩,
  ⟨0x7f80, "OP_ItemPreviewRequest"⟩,
  ⟨0x7fe0, "OP_GuildTributeFavorAndTimer"⟩,
  ⟨0x9119, "OP_DzExpeditionInfo"⟩,
  ⟨0x9be3, "OP_LDoNPickLock"⟩,
  ⟨0xaaba, "OP_PickZone"⟩,
  ⟨0xb2e3, "OP_DzQuit"⟩,
  ⟨0xc693, "OP_AddNimbusEffect"⟩,
  ⟨0xd7f1, "OP_RemoteMulticlassIdentity"⟩,
  ⟨0, ""⟩]

/-- `TryLookupRof2OpcodeValue`: the first row with a given name. -/
def tryLookupRof2OpcodeValue (name : String) : Option UInt32 :=
  if name = "" then
    none
  else
    (kRof2OpcodeNames.find? fun entry => entry.name = name).map
      OpcodeNameEntry.opcode

/--
An opcode test of the packet observer: the constant, confirmed by the value the
table has for its name.
-/
def isTableOpcode (constant : UInt32) (name : String) (opcode : UInt32) : Bool :=
  decide (opcode = constant) &&
    decide (tryLookupRof2OpcodeValue name = some constant)

/-- Where the table agrees, the test compares with the constant. -/
theorem isTableOpcode_iff
    {constant : UInt32}
    {name : String}
    (agrees : tryLookupRof2OpcodeValue name = some constant)
    (opcode : UInt32) :
    isTableOpcode constant name opcode = true ↔ opcode = constant := by
  simp [isTableOpcode, agrees]

section WideNames

/-- A name in 16-bit symbols; those of the table are ASCII. -/
def wideName (name : String) : List UInt16 :=
  name.toByteArray.data.toList.map UInt8.toUInt16

/-- `TryLookupRof2OpcodeValue`, on the symbols of a wide text. -/
def tryLookupRof2OpcodeText (text : List UInt16) : Option UInt32 :=
  if text = [] then
    none
  else
    (kRof2OpcodeNames.find? fun entry => wideName entry.name = text).map
      OpcodeNameEntry.opcode

/-- Different names are different texts. -/
theorem wideName_inj
    {name other : String} :
    wideName name = wideName other ↔ name = other := by
  constructor
  · intro same
    have sameBytes :
        name.toByteArray.data.toList = other.toByteArray.data.toList :=
      List.map_injective_iff.mpr
        (fun _ _ same => UInt8.toUInt16_inj.mp same) same
    exact String.toByteArray_inj.mp
      (ByteArray.ext (Array.toList_inj.mp sameBytes))
  · rintro rfl
    rfl

/-- Looking up a name and looking up its text are the same. -/
theorem tryLookupRof2OpcodeText_wideName (name : String) :
    tryLookupRof2OpcodeText (wideName name) =
      tryLookupRof2OpcodeValue name := by
  have emptyIff : wideName name = [] ↔ name = "" :=
    @wideName_inj name ""
  simp only [tryLookupRof2OpcodeText, tryLookupRof2OpcodeValue, emptyIff,
    wideName_inj]

/-- Every name of the table starts with an `O`. -/
theorem head?_kRof2OpcodeNames :
    (kRof2OpcodeNames.all fun entry =>
      entry.name.toByteArray.data.toList.head?.all (· == 79)) = true := by
  decide +kernel

/-- A text that is looked up starts with an `O`. -/
theorem head?_of_tryLookupRof2OpcodeText
    {text : List UInt16}
    {opcode : UInt32}
    (known : tryLookupRof2OpcodeText text = some opcode) :
    text.head? = some 79 := by
  rw [tryLookupRof2OpcodeText] at known
  split at known
  next =>
    cases known
  next notBlank =>
    obtain ⟨entry, found, -⟩ := Option.map_eq_some_iff.mp known
    have sameText : wideName entry.name = text := by
      simpa using List.find?_some found
    have startsO :=
      List.all_eq_true.mp head?_kRof2OpcodeNames entry
        (List.mem_of_find?_eq_some found)
    rw [← sameText, wideName, List.head?_map]
    cases first : entry.name.toByteArray.data.toList.head? with
    | none =>
        rw [List.head?_eq_none_iff] at first
        rw [← sameText, wideName, first] at notBlank
        exact (notBlank rfl).elim
    | some byte =>
        rw [first] at startsO
        have isO : byte = 79 := by simpa using startsO
        rw [isO]
        rfl

end WideNames

end MonomythClient.OpcodeReference

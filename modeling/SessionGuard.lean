import SessionGuard.Machine
import SessionGuard.Progress
import SessionGuard.Simulation
import SessionGuard.Unicode
import SessionGuard.ByteStream
import SessionGuard.BytePipe
import SessionGuard.Ledger
import SessionGuard.ItemModel
import SessionGuard.PamMessage
import SessionGuard.PamDecoder
import SessionGuard.PamFrame
import SessionGuard.FrameReader
import SessionGuard.AuthPam
import SessionGuard.AuthPamLaws
import SessionGuard.PamDescriptors
import SessionGuard.PamChildren
import SessionGuard.AuthMsgQueue
import SessionGuard.QueueDeadlock
import SessionGuard.AuthProxy
import SessionGuard.AuthRuns
import SessionGuard.AuthProxyLaws
import SessionGuard.AuthMethods
import SessionGuard.FallbackError
import SessionGuard.AttemptIsolation
import SessionGuard.QueueTransparency
import SessionGuard.DispatcherFifo
import SessionGuard.QueueLiveness
import SessionGuard.QueueProgress
import SessionGuard.AuthProgress
import SessionGuard.DispatcherRestart
import SessionGuard.MessageSpacing
import SessionGuard.Checkpass
import SessionGuard.ConversationHeap
import SessionGuard.SendFailures
import SessionGuard.PamTalk
import SessionGuard.PamTalkLaws
import SessionGuard.ByteTalk
import SessionGuard.ByteTalkLaws
import SessionGuard.ReplyRoutes
import SessionGuard.PromptEdit
import SessionGuard.LockScreen
import SessionGuard.LockScreenCalls
import SessionGuard.UnlockSafety
import SessionGuard.LockScreenStranded
import SessionGuard.LockScreenProgress
import SessionGuard.LockScreenRecovery
import SessionGuard.UnlockLiveness
import SessionGuard.ReplyPerPrompt
import SessionGuard.DialogFade
import SessionGuard.ScreenSaverDialog
import SessionGuard.UserListWidget
import SessionGuard.GreeterLoginWindow
import SessionGuard.GreeterResponds
import SessionGuard.GreeterModes
import SessionGuard.GreeterAssertions
import SessionGuard.GreeterPrompt
import SessionGuard.GreeterUserModel
import SessionGuard.UserListEvents
import SessionGuard.UserListMirror
import SessionGuard.UserListVisible
import SessionGuard.UserListSelection
import SessionGuard.AuthRestarts
import SessionGuard.GreeterLogin
import SessionGuard.GreeterLoginLaws
import SessionGuard.GreeterSessions
import SessionGuard.SessionMenu
import SessionGuard.SessionChoice
import SessionGuard.GreeterDelivery
import SessionGuard.GreeterControls
import SessionGuard.GreeterLiveness
import SessionGuard.GreeterScreenManager
import SessionGuard.GreeterSettingWindow
import SessionGuard.SettingConflicts
import SessionGuard.SettingRoundTrip
import SessionGuard.CapsLockSnoop
import SessionGuard.CapsLockSnoopLaws
import SessionGuard.CapsLockReports

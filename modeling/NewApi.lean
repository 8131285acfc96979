import NewApi.Funding.Settlement
import NewApi.Subscription.Restore
import NewApi.Billing.Capacity
import NewApi.Billing.Restoration
import NewApi.Activity.Deletion
import NewApi.UserCache.AuthFence
import NewApi.UserCache.GroupRefresh
import NewApi.UserCache.WalletCache
import NewApi.ImageTask.Refund
import NewApi.Affiliate.Freeze
import NewApi.Affiliate.Confiscation
import NewApi.Affiliate.Forest
import NewApi.Promo.Counters
import NewApi.Payment.Credited
import NewApi.Payment.Paths
import NewApi.Game.Conservation
import NewApi.Relay.ClaudeContent
import NewApi.Relay.ResponsesRun
import NewApi.Relay.ClaudeToChat
import NewApi.Relay.GeminiToChat
import NewApi.Relay.ChatToGemini
import NewApi.Relay.HeaderOverride
import NewApi.Filter.Attempts
import NewApi.Filter.GeminiBody
import NewApi.Routing.OneRoute
import NewApi.Tasks.Leases
import NewApi.Channels.Keys
import NewApi.Channels.Projection
import NewApi.Channels.ModelGuard
import NewApi.Sessions.Revoked
import NewApi.Sessions.RefreshChain
import NewApi.Concurrency.Slots
import NewApi.Plugins.Reload
import NewApi.Notifications.FanOut
import NewApi.Notifications.SentOnce
import NewApi.Plugins.JSONExact
import NewApi.Relay.ClaudeThinking
import NewApi.Relay.RequestRoundTrip
import NewApi.Archive.Fencing
import NewApi.Polling.Settlement
import NewApi.Game.Payouts
import NewApi.Relay.UsageToClaude
import NewApi.Subscription.Schedule
import NewApi.Activity.Shares
import NewApi.Promo.Discount
import NewApi.Filter.Occurrences
import NewApi.Relay.TieredTokens
import NewApi.Relay.Pruning
import NewApi.Relay.GeminiTurns
import NewApi.Routing.Occupied
import NewApi.RateLimit.Janitor
import NewApi.Relay.NegativeIndex

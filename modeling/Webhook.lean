import Webhook.Dispatcher.Interface
import Webhook.Endpoint.Text
import Webhook.Proofs.Delivery.Precedence
import Webhook.Proofs.Delivery.Redirects
import Webhook.Proofs.Dispatcher.Admission
import Webhook.Proofs.Dispatcher.Barrier
import Webhook.Proofs.Dispatcher.Isolation
import Webhook.Proofs.Dispatcher.Order
import Webhook.Proofs.Dispatcher.Statuses
import Webhook.Proofs.Dispatcher.Waking
import Webhook.Proofs.Event.Receiver
import Webhook.Proofs.Event.RoundTrip
import Webhook.Proofs.Event.Secrets
import Webhook.Proofs.Event.Tampering
import Webhook.Proofs.Event.Wording
import Webhook.Proofs.Registry.Loading
import Webhook.Proofs.Dispatcher.Schedule
